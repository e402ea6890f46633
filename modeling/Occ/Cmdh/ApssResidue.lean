/-
What a packet of the APSS leaves of an earlier one: whether a packet is accepted does not depend on what has been stored
before, the maps that are reset hold the last packet alone, and the other globals keep what the last packet does not write.
-/
import Occ.Cmdh.ApssConfigLaw

namespace Occ.Cmdh

open Writes (puts storeAll Covered)

/-! ## Acceptance -/

namespace Apss

/-- The parts that are reset by every packet are the same. -/
structure SameMaps (s t : Apss) : Prop where
  adcMap : s.adcMap = t.adcMap
  gpioMap : s.gpioMap = t.gpioMap
  gpuVoltType : s.gpuVoltType = t.gpuVoltType
  foundVolt2 : s.foundVolt2 = t.foundVolt2
  pwrReadingType : s.pwrReadingType = t.pwrReadingType

/-- Two results agree: in the maps and in the error. -/
def Agree (r r' : Apss × Option DataErrl) : Prop := SameMaps r.1 r'.1 ∧ r.2 = r'.2

variable {s t : Apss}

theorem voltConflict_iff (h : SameMaps s t) (f : AdcFunction) : s.VoltConflict f ↔ t.VoltConflict f := by
  unfold VoltConflict
  rw [h.gpuVoltType]

theorem SameMaps.setVolt (h : SameMaps s t) (f : AdcFunction) : SameMaps (s.setVolt f) (t.setVolt f) := by
  rw [setVolt_eq, setVolt_eq]
  exact ⟨h.adcMap, h.gpioMap, by dsimp only; rw [h.gpuVoltType], by dsimp only; rw [h.foundVolt2], h.pwrReadingType⟩

theorem SameMaps.ite {s' t' : Apss} {p p' : Prop} [Decidable p] [Decidable p'] (h : SameMaps s t) (h' : SameMaps s' t')
    (hp : p ↔ p') : SameMaps (if p then s' else s) (if p' then t' else t) := by
  by_cases hp' : p'
  · rw [if_pos hp', if_pos (hp.2 hp')]
    exact h'
  · rw [if_neg hp', if_neg (mt hp.1 hp')]
    exact h

theorem storeAdcChannel_agree (h : SameMaps s t) (id : BitVec 8) (channel : AdcChannel) :
    Agree (s.storeAdcChannel id channel) (t.storeAdcChannel id channel) := by
  unfold storeAdcChannel
  rcases AdcFunction.ofId id with _ | f
  · exact ⟨h, rfl⟩
  dsimp only
  by_cases hv : s.VoltConflict f
  · rw [if_pos hv, if_pos ((voltConflict_iff h f).1 hv)]
    exact ⟨h, rfl⟩
  rw [if_neg hv, if_neg (mt (voltConflict_iff h f).2 hv)]
  have hset := h.setVolt f
  rcases f.place with _ | place
  · exact ⟨hset, rfl⟩
  dsimp only
  rw [hset.adcMap]
  split
  · exact ⟨⟨rfl, hset.gpioMap, hset.gpuVoltType, hset.foundVolt2, hset.pwrReadingType⟩, rfl⟩
  · exact ⟨hset, rfl⟩

theorem storeGpioPin_agree (h : SameMaps s t) (id : BitVec 8) (pin : GpioPin) :
    Agree (s.storeGpioPin id pin) (t.storeGpioPin id pin) := by
  unfold storeGpioPin
  rcases gpioPlaces[id.toNat]? with _ | _ | place
  · exact ⟨h, rfl⟩
  · exact ⟨h, rfl⟩
  dsimp only
  rw [h.gpioMap]
  split
  · exact ⟨⟨h.adcMap, rfl, h.gpuVoltType, h.foundVolt2, h.pwrReadingType⟩, rfl⟩
  · exact ⟨h, rfl⟩

theorem storeGpioPort_agree (h : SameMaps s t) (cmd : ApssConfig) (port : Fin 2) :
    Agree (s.storeGpioPort cmd port) (t.storeGpioPort cmd port) := by
  unfold Agree storeGpioPort
  apply Writes.storeAll_agree (R := SameMaps)
  · intro s t pin h
    exact storeGpioPin_agree h _ _
  · exact ⟨h.adcMap, h.gpioMap, h.gpuVoltType, h.foundVolt2, h.pwrReadingType⟩

theorem storeChannel_agree (h : SameMaps s t) (chipId : BitVec 8) (cmd : ApssConfig) (channel : AdcChannel) :
    Agree (s.storeChannel chipId cmd channel) (t.storeChannel chipId cmd channel) := by
  unfold storeChannel
  dsimp only
  have hcal : SameMaps { s with cal := Function.update s.cal channel (cmd.adc channel).cal }
      { t with cal := Function.update t.cal channel (cmd.adc channel).cal } :=
    ⟨h.adcMap, h.gpioMap, h.gpuVoltType, h.foundVolt2, h.pwrReadingType⟩
  obtain ⟨hu, herr⟩ := storeAdcChannel_agree hcal (cmd.adc channel).assignment channel
  generalize storeAdcChannel { s with cal := Function.update s.cal channel (cmd.adc channel).cal }
    (cmd.adc channel).assignment channel = r at hu herr ⊢
  generalize storeAdcChannel { t with cal := Function.update t.cal channel (cmd.adc channel).cal }
    (cmd.adc channel).assignment channel = r' at hu herr ⊢
  obtain ⟨u, err⟩ := r
  obtain ⟨u', err'⟩ := r'
  obtain rfl : err = err' := herr
  rcases err with _ | err
  · have hpwr : u.pwrReadingType = u'.pwrReadingType := hu.pwrReadingType
    refine ⟨?_, rfl⟩
    apply SameMaps.ite
    · exact ⟨hu.adcMap, hu.gpioMap, hu.gpuVoltType, hu.foundVolt2, hpwr⟩
    · exact ⟨hu.adcMap, hu.gpioMap, hu.gpuVoltType, hu.foundVolt2, rfl⟩
    · change _ ∧ u.pwrReadingType = pwrReadingTypeNone ↔ _ ∧ u'.pwrReadingType = pwrReadingTypeNone
      rw [hpwr]
  · exact ⟨hu, rfl⟩

end Apss

theorem dataStoreApssConfigV20_agree {s t : Apss} (h : s.SameMaps t) (chipId : BitVec 8) (cmd : ApssConfig) :
    Apss.Agree (dataStoreApssConfigV20 chipId s cmd) (dataStoreApssConfigV20 chipId t cmd) := by
  unfold dataStoreApssConfigV20
  dsimp only
  have hstart : (if s.pwrReadingType = pwrReadingType2Channel then s
      else { s with pwrReadingType := pwrReadingTypeNone }).SameMaps
      (if t.pwrReadingType = pwrReadingType2Channel then t else { t with pwrReadingType := pwrReadingTypeNone }) := by
    rw [h.pwrReadingType]
    split
    · exact h
    · exact ⟨h.adcMap, h.gpioMap, h.gpuVoltType, h.foundVolt2, rfl⟩
  rw [h.pwrReadingType] at hstart ⊢
  generalize (if t.pwrReadingType = pwrReadingType2Channel then s
    else { s with pwrReadingType := pwrReadingTypeNone }) = s' at hstart ⊢
  generalize (if t.pwrReadingType = pwrReadingType2Channel then t
    else { t with pwrReadingType := pwrReadingTypeNone }) = t' at hstart ⊢
  have hagree : Apss.Agree (storeAll (Apss.storeChannel chipId cmd) s' (channelsOf t.pwrReadingType))
      (storeAll (Apss.storeChannel chipId cmd) t' (channelsOf t.pwrReadingType)) := by
    apply Writes.storeAll_agree (R := Apss.SameMaps)
    · intro s t channel h
      exact Apss.storeChannel_agree h chipId cmd channel
    · exact hstart
  generalize storeAll (Apss.storeChannel chipId cmd) s' (channelsOf t.pwrReadingType) = r at hagree ⊢
  generalize storeAll (Apss.storeChannel chipId cmd) t' (channelsOf t.pwrReadingType) = r' at hagree ⊢
  obtain ⟨u, err⟩ := r
  obtain ⟨u', err'⟩ := r'
  obtain ⟨hu, rfl⟩ : u.SameMaps u' ∧ err = err' := hagree
  rcases err with _ | err
  · dsimp only
    rw [hu.foundVolt2, hu.pwrReadingType]
    split
    · exact ⟨hu, rfl⟩
    split
    · apply Writes.storeAll_agree (R := Apss.SameMaps)
      · intro s t port h
        exact Apss.storeGpioPort_agree h cmd port
      · exact hu
    · exact ⟨hu, rfl⟩
  · exact ⟨hu, rfl⟩

theorem dataStoreApssConfig_agree (chipId : BitVec 8) (s t : Apss) (cmd : ApssConfig) :
    Apss.Agree (dataStoreApssConfig chipId s cmd) (dataStoreApssConfig chipId t cmd) := by
  have hreset : ∀ type, Apss.SameMaps { s.reset with pwrReadingType := type } { t.reset with pwrReadingType := type } :=
    fun _ => ⟨rfl, rfl, rfl, rfl, rfl⟩
  unfold dataStoreApssConfig
  dsimp only
  split
  · exact ⟨hreset _, rfl⟩
  split
  · exact dataStoreApssConfigV20_agree (hreset _) chipId cmd
  split
  · exact ⟨hreset _, rfl⟩
  · exact ⟨hreset _, rfl⟩

/-! ## Residue -/

/-- What an accepted packet writes to the globals that are not reset. -/
structure ApssKept (chipId : BitVec 8) (cmd : ApssConfig) (s t : Apss) : Prop where
  chToFunction : t.chToFunction = puts (cmd.channels.flatMap cmd.functionWrites) s.chToFunction
  cal : t.cal = puts (cmd.channels.map cmd.calWrite) s.cal
  gpioPortsMode : t.gpioPortsMode = puts (cmd.ports.map fun port => (port, (cmd.gpio port).mode)) s.gpioPortsMode
  pwrMemSid : (fun _ => t.pwrMemSid) = puts (cmd.channels.flatMap (cmd.memSidWrites chipId)) fun _ => s.pwrMemSid
  pwrGpuSid : (fun _ => t.pwrGpuSid) = puts (cmd.channels.flatMap (cmd.gpuSidWrites chipId)) fun _ => s.pwrGpuSid
  pwrApssChSid : t.pwrApssChSid = puts (cmd.channels.flatMap cmd.channelSidWrites) s.pwrApssChSid

theorem ApssStored.kept {chipId : BitVec 8} {cmd : ApssConfig} {s t : Apss} (h : ApssStored chipId cmd s t) :
    ApssKept chipId cmd s t := by
  obtain ⟨u, hu, heq⟩ := h.channels
  rw [heq]
  exact ⟨hu.chToFunction, hu.cal, rfl, hu.pwrMemSid, hu.pwrGpuSid, hu.pwrApssChSid⟩

/-- Everything that only the first packet writes is as it was: the functions, the calibration data and the sensor IDs of
channels that the second packet leaves without one, and the modes of the ports when its pins are not read. -/
structure ApssCovered (chipId : BitVec 8) (s : Apss) (p q : ApssConfig) : Prop where
  chToFunction : Covered (p.channels.flatMap p.functionWrites) (q.channels.flatMap q.functionWrites) s.chToFunction
  cal : Covered (p.channels.map p.calWrite) (q.channels.map q.calWrite) s.cal
  gpioPortsMode : Covered (p.ports.map fun port => (port, (p.gpio port).mode))
    (q.ports.map fun port => (port, (q.gpio port).mode)) s.gpioPortsMode
  pwrMemSid : Covered (p.channels.flatMap (p.memSidWrites chipId)) (q.channels.flatMap (q.memSidWrites chipId))
    fun _ => s.pwrMemSid
  pwrGpuSid : Covered (p.channels.flatMap (p.gpuSidWrites chipId)) (q.channels.flatMap (q.gpuSidWrites chipId))
    fun _ => s.pwrGpuSid
  pwrApssChSid : Covered (p.channels.flatMap p.channelSidWrites) (q.channels.flatMap q.channelSidWrites) s.pwrApssChSid

/-- The second packet leaves the same after the first one as without it. -/
theorem apss_eq_iff_covered {chipId : BitVec 8} {p q : ApssConfig} {s s' t : Apss}
    (hp : dataStoreApssConfig chipId s p = (s', none)) (hq : dataStoreApssConfig chipId s' q = (t, none)) :
    ∃ u, dataStoreApssConfig chipId s q = (u, none) ∧ (t = u ↔ ApssCovered chipId s p q) := by
  obtain ⟨hmaps, herr⟩ := dataStoreApssConfig_agree chipId s' s q
  rw [hq] at hmaps herr
  obtain ⟨u, hu⟩ : ∃ u, dataStoreApssConfig chipId s q = (u, none) := ⟨_, Prod.ext rfl herr.symm⟩
  rw [hu] at hmaps
  have kp := (dataStoreApssConfig_ok hp).kept
  have kt := (dataStoreApssConfig_ok hq).kept
  have ku := (dataStoreApssConfig_ok hu).kept
  refine ⟨u, hu, ?_⟩
  constructor
  · rintro rfl
    constructor
    · exact (Writes.eq_iff_covered kp.chToFunction kt.chToFunction ku.chToFunction).1 rfl
    · exact (Writes.eq_iff_covered kp.cal kt.cal ku.cal).1 rfl
    · exact (Writes.eq_iff_covered kp.gpioPortsMode kt.gpioPortsMode ku.gpioPortsMode).1 rfl
    · exact (Writes.value_eq_iff_covered kp.pwrMemSid kt.pwrMemSid ku.pwrMemSid).1 rfl
    · exact (Writes.value_eq_iff_covered kp.pwrGpuSid kt.pwrGpuSid ku.pwrGpuSid).1 rfl
    · exact (Writes.eq_iff_covered kp.pwrApssChSid kt.pwrApssChSid ku.pwrApssChSid).1 rfl
  · intro h
    apply Apss.ext
    · exact hmaps.adcMap
    · exact hmaps.gpioMap
    · exact hmaps.gpuVoltType
    · exact hmaps.foundVolt2
    · exact hmaps.pwrReadingType
    · exact (Writes.eq_iff_covered kp.chToFunction kt.chToFunction ku.chToFunction).2 h.chToFunction
    · exact (Writes.eq_iff_covered kp.cal kt.cal ku.cal).2 h.cal
    · exact (Writes.eq_iff_covered kp.gpioPortsMode kt.gpioPortsMode ku.gpioPortsMode).2 h.gpioPortsMode
    · exact (Writes.value_eq_iff_covered kp.pwrMemSid kt.pwrMemSid ku.pwrMemSid).2 h.pwrMemSid
    · exact (Writes.value_eq_iff_covered kp.pwrGpuSid kt.pwrGpuSid ku.pwrGpuSid).2 h.pwrGpuSid
    · exact (Writes.eq_iff_covered kp.pwrApssChSid kt.pwrApssChSid ku.pwrApssChSid).2 h.pwrApssChSid

end Occ.Cmdh
