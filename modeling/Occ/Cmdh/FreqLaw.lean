/-
Accepted frequency packets: the version and its length, and where the frequencies of the modes lie between the limits
that the OPPB gives.
-/
import Occ.Cmdh.DataFormats

namespace Occ.Cmdh

/-! ## The law -/

/-- A frequency in MHz lies between the limits of the OPPB, which are in kHz. -/
def CnfgEnv.InRange (env : CnfgEnv) (freq : BitVec 16) : Prop :=
  env.oppbFrequencyMinKhz.toNat ≤ freq.toNat * 1000 ∧ freq.toNat * 1000 ≤ env.oppbFrequencyMaxKhz.toNat

/-- The packet has a version that is supported, and exactly the length of that version. -/
def FreqConfig.Supported (cmd : FreqConfig) : Prop :=
  (cmd.version = 0x20 ∧ cmd.dataLength.toNat = 2 + 6 * 2) ∨ (cmd.version = 0x21 ∧ cmd.dataLength.toNat = 2 + 8 * 2)

/-- The frequencies that a master has stored: the oversubscription and VRM N frequencies have no limits of their own. -/
structure FreqStored (env : CnfgEnv) (t : Freq) : Prop where
  nominal : t.table .nominal ≠ 0
  within : ∀ mode, mode ≠ .oversub → mode ≠ .vrmN → t.table mode ≠ 0 → env.InRange (t.table mode)

/-- What an accepted packet says and leaves; a slave ignores the frequencies. -/
structure FreqLaw (env : CnfgEnv) (role : BitVec 8) (cmd : FreqConfig) (t : Freq) : Prop where
  supported : cmd.Supported
  stored : role = occMaster → FreqStored env t

/-- `l_pgpe_max_freq_mhz`, of 16 bits. -/
def CnfgEnv.pgpeMaxFreqMhz (env : CnfgEnv) : BitVec 16 := (env.oppbFrequencyMaxKhz / 1000).setWidth 16

/-- A frequency of the packet is not below the minimum of the OPPB. -/
def CnfgEnv.NotBelow (env : CnfgEnv) (freq : BitVec 16) : Prop := env.oppbFrequencyMinKhz.toNat ≤ freq.toNat * 1000

/-- A frequency of the packet is not above the maximum of the OPPB. -/
def CnfgEnv.NotAbove (env : CnfgEnv) (freq : BitVec 16) : Prop := freq.toNat * 1000 ≤ env.oppbFrequencyMaxKhz.toNat

/-- The frequencies of the packet that are only lowered are not below the minimum, and those that are only raised are not
above the maximum: turbo may be missing, and ultra turbo too, or say why there is none. A minimum frequency that is
raised goes to the whole MHz below the minimum of the OPPB. -/
structure FreqConfig.InLimits (cmd : FreqConfig) (env : CnfgEnv) : Prop where
  pgpeMax : env.pgpeMaxFreqMhz ≠ 0 ∧ env.NotBelow env.pgpeMaxFreqMhz
  nominal : env.NotBelow (cmd.freq 0)
  turbo : cmd.freq 1 = 0 ∨ env.NotBelow (cmd.freq 1)
  minFrequency : env.NotAbove (cmd.freq 2)
  raised : ¬env.NotBelow (cmd.freq 2) → env.oppbFrequencyMinKhz.toNat < 1000 ∨ 1000 ∣ env.oppbFrequencyMinKhz.toNat
  uturbo : min (cmd.freq 3).toNat env.pgpeMaxFreqMhz.toNat < 4 ∨ env.NotBelow (cmd.freq 3)
  pwrsave : env.NotAbove (cmd.freq 4)

/-- The condition on a packet. -/
def FreqOk (env : CnfgEnv) (role : BitVec 8) (cmd : FreqConfig) : Prop :=
  (cmd.version = 0x20 ∨ cmd.version = 0x21) ∧ (role = occMaster → cmd.InLimits env)

/-! ## The stored frequencies -/

section Points

variable {env : CnfgEnv} {cmd : FreqConfig}

theorem pgpeMaxFreqMhz_notAbove : env.NotAbove env.pgpeMaxFreqMhz := by
  have hle : env.pgpeMaxFreqMhz.toNat ≤ env.oppbFrequencyMaxKhz.toNat / 1000 := by
    rw [CnfgEnv.pgpeMaxFreqMhz, BitVec.toNat_setWidth, BitVec.toNat_udiv]
    exact Nat.mod_le _ _
  unfold CnfgEnv.NotAbove
  omega

theorem toNat_clip (max freq : BitVec 16) : (if max < freq then max else freq).toNat = min freq.toNat max.toNat := by
  split
  case isTrue h =>
    have : max.toNat < freq.toNat := h
    omega
  case isFalse h =>
    have : ¬max.toNat < freq.toNat := h
    omega

theorem uturboReason_isSome_iff (freq : BitVec 16) : (uturboReason freq).isSome ↔ freq.toNat < 4 := by
  rw [uturboReason, Option.isSome_iff_ne_none, ne_eq, List.getElem?_eq_none_iff, Nat.not_le]
  rfl

/-- Each stored frequency, from those of the packet. -/
structure PointsOf (env : CnfgEnv) (cmd : FreqConfig) (table : OccMode → BitVec 16) : Prop where
  nominal : (table .nominal).toNat = min (cmd.freq 0).toNat env.pgpeMaxFreqMhz.toNat
  turbo : (table .turbo).toNat =
    if cmd.freq 1 = 0 then (table .nominal).toNat else min (cmd.freq 1).toNat env.pgpeMaxFreqMhz.toNat
  minFrequency : (table .minFrequency).toNat =
    if (cmd.freq 2).toNat * 1000 < env.oppbFrequencyMinKhz.toNat then env.oppbFrequencyMinKhz.toNat / 1000 % 65536
    else (cmd.freq 2).toNat
  uturbo : (table .uturbo).toNat =
    if min (cmd.freq 3).toNat env.pgpeMaxFreqMhz.toNat < 4 then 0 else min (cmd.freq 3).toNat env.pgpeMaxFreqMhz.toNat
  dynPowerSave : (table .dynPowerSave).toNat = max (table .turbo).toNat (table .uturbo).toNat
  dynPowerSaveFp : (table .dynPowerSaveFp).toNat = max (table .turbo).toNat (table .uturbo).toNat
  pwrsave : (table .pwrsave).toNat = max (cmd.freq 4).toNat (table .minFrequency).toNat
  ffo : (table .ffo).toNat =
    if cmd.freq 5 = 0 then 0
    else if (cmd.freq 5).toNat < (table .minFrequency).toNat then (table .minFrequency).toNat
    else min (cmd.freq 5).toNat (table .dynPowerSave).toNat

theorem toNat_raise (low freq : BitVec 16) : (if freq < low then low else freq).toNat = max freq.toNat low.toNat := by
  split
  case isTrue h =>
    have : freq.toNat < low.toNat := h
    omega
  case isFalse h =>
    have : ¬freq.toNat < low.toNat := h
    omega

theorem points_spec : PointsOf env cmd (cmd.points env).1 := by
  have hclip := toNat_clip env.pgpeMaxFreqMhz
  have hmin : ((cmd.freq 2).setWidth 32 * 1000 < env.oppbFrequencyMinKhz) ↔
      (cmd.freq 2).toNat * 1000 < env.oppbFrequencyMinKhz.toNat := by
    rw [BitVec.lt_def, BitVec.toNat_mul, BitVec.toNat_setWidth]
    have := (cmd.freq 2).isLt
    have hthousand : (1000 : BitVec 32).toNat = 1000 := rfl
    rw [hthousand]
    omega
  constructor
  case nominal => exact hclip _
  case turbo => exact (apply_ite BitVec.toNat _ _ _).trans (if_congr Iff.rfl rfl (hclip _))
  case minFrequency =>
    refine (apply_ite BitVec.toNat _ _ _).trans ?_
    rw [BitVec.toNat_setWidth, BitVec.toNat_udiv]
    exact if_congr hmin rfl rfl
  case uturbo =>
    refine (apply_ite BitVec.toNat _ _ _).trans ?_
    have hspecial := uturboReason_isSome_iff (if env.pgpeMaxFreqMhz < cmd.freq 3 then env.pgpeMaxFreqMhz else cmd.freq 3)
    rw [hclip] at hspecial
    exact if_congr hspecial rfl (hclip _)
  case dynPowerSave => exact toNat_raise _ _
  case dynPowerSaveFp => exact toNat_raise _ _
  case pwrsave => exact toNat_raise _ _
  case ffo =>
    refine (apply_ite BitVec.toNat _ _ _).trans ?_
    refine if_congr Iff.rfl rfl ((apply_ite BitVec.toNat _ _ _).trans ?_)
    exact if_congr Iff.rfl rfl (toNat_clip _ _)

theorem eq_zero_iff (freq : BitVec 16) : freq = 0 ↔ freq.toNat = 0 :=
  ⟨fun h => h ▸ rfl, fun h => BitVec.eq_of_toNat_eq h⟩

/-- The stored frequencies of a packet within the limits. -/
theorem stored_of_inLimits {t : Freq} (ht : t.table = (cmd.points env).1) (hnominal : cmd.freq 0 ≠ 0)
    (hlimits : cmd.InLimits env) : FreqStored env t := by
  obtain ⟨n, tb, mn, u, d, df, ps, f⟩ := @points_spec env cmd
  obtain ⟨⟨hpgpe, hpgpeMin⟩, hn, htb, hmn, hraised, hu, hps⟩ := hlimits
  have habove := @pgpeMaxFreqMhz_notAbove env
  have hsize := env.pgpeMaxFreqMhz.isLt
  simp only [CnfgEnv.NotBelow, CnfgEnv.NotAbove, eq_zero_iff, ne_eq] at *
  rw [← ht] at n tb mn u d df ps f
  -- nominal, turbo and the minimum first: the others are raised or lowered to these
  have hnom : (t.table .nominal).toNat ≠ 0 ∧ env.oppbFrequencyMinKhz.toNat ≤ (t.table .nominal).toNat * 1000 ∧
      (t.table .nominal).toNat * 1000 ≤ env.oppbFrequencyMaxKhz.toNat := by
    clear * - n hnominal hpgpe hpgpeMin hn habove
    omega
  have hturbo : env.oppbFrequencyMinKhz.toNat ≤ (t.table .turbo).toNat * 1000 ∧
      (t.table .turbo).toNat * 1000 ≤ env.oppbFrequencyMaxKhz.toNat := by
    clear * - tb hnom htb hpgpeMin habove
    split at tb <;> omega
  have huturbo : (t.table .uturbo).toNat = 0 ∨ env.oppbFrequencyMinKhz.toNat ≤ (t.table .uturbo).toNat * 1000 ∧
      (t.table .uturbo).toNat * 1000 ≤ env.oppbFrequencyMaxKhz.toNat := by
    clear * - u hu hpgpeMin habove
    split at u <;> omega
  have hminimum : (t.table .minFrequency).toNat = 0 ∧ env.oppbFrequencyMinKhz.toNat < 1000 ∨
      env.oppbFrequencyMinKhz.toNat ≤ (t.table .minFrequency).toNat * 1000 ∧
        (t.table .minFrequency).toNat * 1000 ≤ env.oppbFrequencyMaxKhz.toNat := by
    clear * - mn hmn hraised hsize hpgpeMin habove
    split at mn <;> omega
  have hdps : env.oppbFrequencyMinKhz.toNat ≤ (t.table .dynPowerSave).toNat * 1000 ∧
      (t.table .dynPowerSave).toNat * 1000 ≤ env.oppbFrequencyMaxKhz.toNat := by
    clear * - d hturbo huturbo
    constructor <;> omega
  clear hpgpe hpgpeMin hn htb hmn hraised hu habove hsize n tb mn u
  constructor
  case nominal =>
    rw [ne_eq, eq_zero_iff]
    exact hnom.1
  case within =>
    intro mode hoversub hvrmN hne
    rw [ne_eq, eq_zero_iff] at hne
    cases mode
    case nominal => exact hnom.2
    case turbo => exact hturbo
    case minFrequency =>
      rcases hminimum with ⟨hzero, -⟩ | hminimum
      · exact absurd hzero hne
      · exact hminimum
    case uturbo =>
      rcases huturbo with hzero | huturbo
      · exact absurd hzero hne
      · exact huturbo
    case dynPowerSave => exact hdps
    case dynPowerSaveFp =>
      rw [CnfgEnv.InRange, df, ← d]
      exact hdps
    case pwrsave =>
      unfold CnfgEnv.InRange
      clear * - ps hps hminimum hne
      omega
    case ffo =>
      unfold CnfgEnv.InRange
      clear * - f hminimum hdps hne
      split at f
      · exact absurd f hne
      · split at f <;> constructor <;> omega
    case oversub => exact absurd rfl hoversub
    case vrmN => exact absurd rfl hvrmN

/-- Stored frequencies that are legal come from a packet within the limits. -/
theorem inLimits_of_stored {t : Freq} (ht : t.table = (cmd.points env).1) (hstored : FreqStored env t) :
    cmd.InLimits env := by
  obtain ⟨n, tb, mn, u, -, -, ps, -⟩ := @points_spec env cmd
  obtain ⟨hnominal, hwithin⟩ := hstored
  have hsize := env.pgpeMaxFreqMhz.isLt
  have hn := hwithin .nominal (by decide) (by decide)
  have htb := hwithin .turbo (by decide) (by decide)
  have hmn := hwithin .minFrequency (by decide) (by decide)
  have hu := hwithin .uturbo (by decide) (by decide)
  have hps := hwithin .pwrsave (by decide) (by decide)
  simp only [CnfgEnv.InRange, eq_zero_iff, ne_eq] at hnominal hn htb hmn hu hps
  rw [← ht] at n tb mn u ps
  have hnominal' := hn hnominal
  simp only [eq_zero_iff] at tb
  constructor <;> simp only [CnfgEnv.NotBelow, CnfgEnv.NotAbove, eq_zero_iff, ne_eq]
  case pgpeMax => omega
  case nominal => omega
  case turbo => split at tb <;> omega
  case minFrequency => split at mn <;> omega
  case raised =>
    intro hbelow
    rw [if_pos (by omega)] at mn
    omega
  case uturbo => split at u <;> omega
  case pwrsave => omega

end Points

/-! ## The packets that are accepted -/

variable {env : CnfgEnv} {role : BitVec 8} {s t : Freq} {cmd : FreqConfig}

theorem dataStoreFreqData_ok (h : dataStoreFreqData env role s cmd = (t, none)) :
    2 ≤ cmd.dataLength.toNat ∧ (cmd.version = 0x20 → cmd.dataLength.toNat = 2 + 6 * 2) ∧
      (cmd.version = 0x21 → cmd.dataLength.toNat = 2 + 8 * 2) ∧
      (role = occMaster → cmd.freq 0 ≠ 0 ∧ t.table = (cmd.points env).1) := by
  unfold dataStoreFreqData at h
  rcases ite_eq_iff.1 h with ⟨-, h⟩ | ⟨hlength, h⟩
  · cases h
  simp only [not_or, not_and, not_not, Nat.not_lt] at hlength
  obtain ⟨hbase, h20, h21⟩ := hlength
  refine ⟨hbase, fun hv => ?_, fun hv => ?_, fun hmaster => ?_⟩
  · have := h20 hv
    omega
  · have := h21 hv
    omega
  rw [if_neg (not_not_intro hmaster)] at h
  rcases ite_eq_iff.1 h with ⟨-, h⟩ | ⟨hnominal, h⟩
  · cases h
  · cases h
    exact ⟨hnominal, rfl⟩

/-- An accepted packet keeps the law exactly when its version is a supported one and, on a master, its frequencies lie
on the side of the limits that the code does not correct. -/
theorem freqLaw_iff_freqOk (h : dataStoreFreqData env role s cmd = (t, none)) :
    FreqLaw env role cmd t ↔ FreqOk env role cmd := by
  obtain ⟨-, h20, h21, hmaster⟩ := dataStoreFreqData_ok h
  constructor
  · rintro ⟨hsupported, hstored⟩
    constructor
    · rcases hsupported with ⟨hv, -⟩ | ⟨hv, -⟩
      · exact .inl hv
      · exact .inr hv
    · intro hrole
      exact inLimits_of_stored (hmaster hrole).2 (hstored hrole)
  · rintro ⟨hversion, hlimits⟩
    constructor
    · rcases hversion with hv | hv
      · exact .inl ⟨hv, h20 hv⟩
      · exact .inr ⟨hv, h21 hv⟩
    · intro hrole
      obtain ⟨hnominal, htable⟩ := hmaster hrole
      exact stored_of_inLimits htable hnominal (hlimits hrole)

/-! ## A packet within the limits, and packets that are accepted without -/

/-- An OPPB with limits in kHz. -/
def limitedEnv (low high : BitVec 32) : CnfgEnv := ⟨false, false, 0, false, high, low⟩

/-- A packet with its nominal, turbo, minimum and ultra turbo frequencies; power save is the minimum. -/
def freqPacket (version : BitVec 8) (dataLength : BitVec 16) (nominal turbo low uturbo : BitVec 16) : FreqConfig :=
  ⟨dataLength, version, fun
    | 0 => nominal
    | 1 => turbo
    | 2 | 4 => low
    | 3 => uturbo
    | _ => 0⟩

/-- The frequencies at boot. -/
def Freq.boot : Freq := ⟨fun _ => 0, 0, 0, 0⟩

/-- A packet whose frequencies are clipped to the limits from both sides. -/
theorem freqLaw_iff_freqOk_clipped :
    FreqOk (limitedEnv 2000000 4000000) occMaster (freqPacket 0x20 14 3000 3500 1000 5000) ∧
      ∀ t, dataStoreFreqData (limitedEnv 2000000 4000000) occMaster Freq.boot
        (freqPacket 0x20 14 3000 3500 1000 5000) = (t, none) →
        FreqLaw (limitedEnv 2000000 4000000) occMaster (freqPacket 0x20 14 3000 3500 1000 5000) t := by
  have hok : FreqOk (limitedEnv 2000000 4000000) occMaster (freqPacket 0x20 14 3000 3500 1000 5000) := by
    refine ⟨.inl rfl, fun _ => ?_⟩
    constructor <;> simp only [CnfgEnv.NotBelow, CnfgEnv.NotAbove] <;> decide
  exact ⟨hok, fun t ht => (freqLaw_iff_freqOk ht).2 hok⟩

/-- A packet of version 0x22 with no frequency at all behind it but a nominal one of 1 MHz is accepted. -/
theorem unknown_version_accepted : ∃ t,
    dataStoreFreqData (limitedEnv 2000000 4000000) occMaster Freq.boot (freqPacket 0x22 2 1 0 0 0) = (t, none) ∧
      ¬(freqPacket 0x22 2 1 0 0 0).Supported ∧ t.table .nominal = 1 ∧
      ¬(limitedEnv 2000000 4000000).InRange (t.table .nominal) := by
  refine ⟨_, rfl, ?_, rfl, ?_⟩
  · unfold FreqConfig.Supported
    decide
  · unfold CnfgEnv.InRange
    decide

end Occ.Cmdh
