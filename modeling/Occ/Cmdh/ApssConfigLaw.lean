/-
An accepted packet of the APSS assigns every function to one channel at most and every channel to one function at most:
the two maps that hold the assignment say the same, exactly when the channels that the packet leaves without a function
had none before.
-/
import Occ.Cmdh.ApssConfig

namespace Occ.Cmdh

open Function (update)
open Writes (puts storeAll)

/-! ## The law -/

/-- The channels of a packet. -/
def ApssConfig.channels (cmd : ApssConfig) : List AdcChannel :=
  if cmd.type = pwrReadingTypeNone then [] else channelsOf cmd.type

/-- The function that the packet gives a channel. -/
def ApssConfig.functionOf (cmd : ApssConfig) (channel : AdcChannel) : AdcFunction :=
  if channel ∈ cmd.channels then (AdcFunction.ofId (cmd.adc channel).assignment).getD .reserved else .reserved

/-- The place of the function that the packet gives a pin. -/
def ApssConfig.placeOf (cmd : ApssConfig) (port : Fin 2) (pin : Fin 8) : Option GpioPlace :=
  (gpioPlaces[((cmd.gpio port).assignment pin).toNat]?).join

/-- The map of the functions assigns the channel to the function: its place holds the channel, and a GPU is known to use
the voltage that the function is about. -/
def Apss.Assigns (s : Apss) (f : AdcFunction) (channel : AdcChannel) : Prop :=
  (∃ place, f.place = some place ∧ s.adcMap place = BitVec.ofNat 8 channel) ∧
    ∀ gpu volt, f.volt = some (gpu, volt) → s.gpuVoltType gpu = volt

/-- The packet and the state after it are one assignment: of channels to functions, in both maps, and of pins. -/
structure ApssLaw (cmd : ApssConfig) (s : Apss) : Prop where
  inverse : ∀ f channel, f ≠ .reserved → (s.Assigns f channel ↔ s.chToFunction channel = f)
  function : ∀ f channel channel', s.Assigns f channel → s.Assigns f channel' → channel = channel'
  channel : ∀ f g channel, s.Assigns f channel → s.Assigns g channel → f = g
  /-- no function has two channels in the packet -/
  once : ∀ channel channel', cmd.functionOf channel ≠ .reserved → cmd.functionOf channel = cmd.functionOf channel' →
    channel = channel'
  /-- the pins, which are read when a channel of an APSS has a function -/
  pin : s.pwrReadingType = pwrReadingTypeApss → ∀ place port pin,
    s.gpioMap place = BitVec.ofNat 8 (Apss.pinOf port pin) ↔ cmd.placeOf port pin = some place
  oncePin : s.pwrReadingType = pwrReadingTypeApss → ∀ port pin port' pin', cmd.placeOf port pin ≠ none →
    cmd.placeOf port pin = cmd.placeOf port' pin' → port = port' ∧ pin = pin'
  noPin : s.pwrReadingType ≠ pwrReadingTypeApss → ∀ place, s.gpioMap place = sysCfgInvalidPin

/-! ## Channels -/

theorem ofNat_inj {i j : Fin 16} (h : BitVec.ofNat 8 i = BitVec.ofNat 8 j) : i = j := by
  revert i j
  decide

theorem ofNat_ne_invalid (i : Fin 16) : BitVec.ofNat 8 i ≠ 0xff := by
  revert i
  decide

theorem place_eq_none_iff {f : AdcFunction} : f.place = none ↔ f = .reserved := by
  cases f <;> simp [AdcFunction.place]

theorem eq_or_volts_of_place {f g : AdcFunction} (h : f.place = g.place) :
    f = g ∨ ∃ proc i, (f = .gpu proc (Fin.castSucc i) ∧ g = .gpuVolt2 proc i) ∨
      (f = .gpuVolt2 proc i ∧ g = .gpu proc (Fin.castSucc i)) := by
  cases f <;> cases g <;> simp_all [AdcFunction.place]
  case memoryProc.memoryProc0 proc i => exact Fin.succ_ne_zero i h.2.symm
  case gpuVolt2.gpu proc i proc' j =>
    obtain ⟨rfl, rfl⟩ := h
    revert proc i
    decide

theorem volt_gpuVolt2 (proc i : Fin 2) : (AdcFunction.gpuVolt2 proc i).volt ≠ (AdcFunction.gpu proc i.castSucc).volt ∧
    (AdcFunction.gpuVolt2 proc i).volt.map Prod.fst = (AdcFunction.gpu proc i.castSucc).volt.map Prod.fst := by
  revert proc i
  decide

theorem eq_of_place {f g : AdcFunction} (h : f.place = g.place) (hvolt : f.volt = g.volt) : f = g := by
  rcases eq_or_volts_of_place h with h | ⟨proc, i, ⟨rfl, rfl⟩ | ⟨rfl, rfl⟩⟩
  · exact h
  · exact absurd hvolt.symm (volt_gpuVolt2 proc i).1
  · exact absurd hvolt (volt_gpuVolt2 proc i).1

theorem volt_of_place {f g : AdcFunction} (h : f.place = g.place) : f.volt.map Prod.fst = g.volt.map Prod.fst := by
  rcases eq_or_volts_of_place h with rfl | ⟨proc, i, ⟨rfl, rfl⟩ | ⟨rfl, rfl⟩⟩
  · rfl
  · exact (volt_gpuVolt2 proc i).2.symm
  · exact (volt_gpuVolt2 proc i).2

namespace Apss

/-- A channel with its function has been stored: where the place of the function was free and its voltage is no other. -/
structure Stored (chipId : BitVec 8) (cmd : ApssConfig) (s : Apss) (channel : AdcChannel) (f : AdcFunction) (t : Apss) :
    Prop where
  id : AdcFunction.ofId (cmd.adc channel).assignment = some f
  volt : ¬s.VoltConflict f
  free : ∀ place, f.place = some place → s.adcMap place = sysCfgInvalidAdcChan
  eq : t = { s with
    adcMap := puts (f.place.toList.map (·, BitVec.ofNat 8 channel)) s.adcMap
    chToFunction := puts (f.place.toList.map fun _ => (channel, f)) s.chToFunction
    gpuVoltType := puts f.volt.toList s.gpuVoltType
    foundVolt2 := s.foundVolt2 || f.volt.any (·.2 == .volt2)
    pwrReadingType :=
      if (cmd.adc channel).assignment ≠ 0 ∧ s.pwrReadingType = pwrReadingTypeNone then pwrReadingTypeApss
      else s.pwrReadingType
    cal := puts [(channel, (cmd.adc channel).cal)] s.cal
    pwrMemSid := (s.storeIpmiSensorId chipId channel f (cmd.adc channel).ipmisensorId).pwrMemSid
    pwrGpuSid := (s.storeIpmiSensorId chipId channel f (cmd.adc channel).ipmisensorId).pwrGpuSid
    pwrApssChSid := (s.storeIpmiSensorId chipId channel f (cmd.adc channel).ipmisensorId).pwrApssChSid }

theorem setVolt_eq (s : Apss) (f : AdcFunction) :
    s.setVolt f = { s with
      gpuVoltType := puts f.volt.toList s.gpuVoltType
      foundVolt2 := s.foundVolt2 || f.volt.any (·.2 == .volt2) } := by
  unfold setVolt
  rcases f.volt with _ | ⟨gpu, volt⟩
  · simp [puts]
  · rfl

/-- The store of a function leaves everything else as it is. -/
theorem storeAdcChannel_ok {s t : Apss} {id : BitVec 8} {channel : AdcChannel}
    (h : s.storeAdcChannel id channel = (t, none)) :
    ∃ f, AdcFunction.ofId id = some f ∧ ¬s.VoltConflict f ∧
      (∀ place, f.place = some place → s.adcMap place = sysCfgInvalidAdcChan) ∧
      t = { s with
        gpuVoltType := puts f.volt.toList s.gpuVoltType
        foundVolt2 := s.foundVolt2 || f.volt.any (·.2 == .volt2)
        adcMap := puts (f.place.toList.map (·, BitVec.ofNat 8 channel)) s.adcMap
        chToFunction := puts (f.place.toList.map fun _ => (channel, f)) s.chToFunction } := by
  unfold storeAdcChannel at h
  rcases hf : AdcFunction.ofId id with _ | f
  · rw [hf] at h
    cases h
  rw [hf] at h
  dsimp only at h
  by_cases hv : s.VoltConflict f
  · rw [if_pos hv] at h
    cases h
  rw [if_neg hv, setVolt_eq] at h
  refine ⟨f, rfl, hv, ?_⟩
  rcases hp : f.place with _ | place
  · rw [hp] at h
    cases h
    exact ⟨nofun, rfl⟩
  · rw [hp] at h
    dsimp only at h
    split at h
    case isTrue hfree =>
      cases h
      refine ⟨?_, rfl⟩
      rintro _ ⟨⟩
      exact hfree
    case isFalse => cases h

theorem storeChannel_ok {cmd : ApssConfig} {chipId : BitVec 8} {s t : Apss} {channel : AdcChannel}
    (h : s.storeChannel chipId cmd channel = (t, none)) : ∃ f, Stored chipId cmd s channel f t := by
  unfold storeChannel at h
  dsimp only at h
  split at h
  case h_1 => cases h
  case h_2 u hu =>
    obtain ⟨f, hf, hvolt, hfree, rfl⟩ := storeAdcChannel_ok hu
    refine ⟨f, hf, hvolt, hfree, ?_⟩
    rw [hf] at h
    simp only [Prod.mk.injEq, and_true] at h
    rw [← h]
    by_cases hpwr : (cmd.adc channel).assignment ≠ 0 ∧ s.pwrReadingType = pwrReadingTypeNone
    · refine (if_pos hpwr).trans ?_
      rw [if_pos hpwr]
      rfl
    · refine (if_neg hpwr).trans ?_
      rw [if_neg hpwr]
      rfl

end Apss

/-! ## All channels -/

namespace ApssConfig

variable (cmd : ApssConfig)

/-- The function whose ID the packet has for a channel. -/
def fn (channel : AdcChannel) : AdcFunction := (AdcFunction.ofId (cmd.adc channel).assignment).getD .reserved

/-- What the channels write to the two maps. -/
def adcWrites (channel : AdcChannel) : List (AdcPlace × BitVec 8) :=
  (cmd.fn channel).place.toList.map (·, BitVec.ofNat 8 channel)

def functionWrites (channel : AdcChannel) : List (AdcChannel × AdcFunction) :=
  (cmd.fn channel).place.toList.map fun _ => (channel, cmd.fn channel)

end ApssConfig

/-- The channels done have their functions, each in its own place and with the voltage it is about. -/
structure AdcInv (cmd : ApssConfig) (done : List AdcChannel) (s : Apss) : Prop where
  fresh : Writes.Fresh sysCfgInvalidAdcChan (done.flatMap cmd.adcWrites) s.adcMap
  volt : ∀ channel ∈ done, ∀ gpu volt, (cmd.fn channel).volt = some (gpu, volt) → s.gpuVoltType gpu = volt

theorem volt_ne_none {f : AdcFunction} {gpu : Fin 2 × Fin 3} {volt : GpuVolt} (h : f.volt = some (gpu, volt)) :
    volt ≠ .none := by
  rintro rfl
  unfold AdcFunction.volt at h
  split at h <;> cases h

theorem AdcInv.stored {cmd : ApssConfig} {chipId : BitVec 8} {done : List AdcChannel} {s t : Apss}
    {channel : AdcChannel} {f : AdcFunction} (h : AdcInv cmd done s) (hst : s.Stored chipId cmd channel f t) :
    AdcInv cmd (done ++ [channel]) t := by
  have hf : cmd.fn channel = f := by rw [ApssConfig.fn, hst.id, Option.getD_some]
  have hadc : t.adcMap = puts (f.place.toList.map (·, BitVec.ofNat 8 channel)) s.adcMap := by rw [hst.eq]
  have hgpu : t.gpuVoltType = puts f.volt.toList s.gpuVoltType := by rw [hst.eq]
  constructor
  · rw [List.flatMap_append, List.flatMap_singleton, ApssConfig.adcWrites, hf, hadc]
    exact h.fresh.snoc_option hst.free (ofNat_ne_invalid channel)
  · rintro channel' hmem gpu volt hvolt
    rw [hgpu, Writes.puts_apply]
    rcases List.mem_append.1 hmem with hmem | hmem
    · -- a channel done before: the voltage of its GPU is not in conflict with the one that is noted now
      have hold := h.volt channel' hmem gpu volt hvolt
      rcases hv : f.volt with _ | ⟨gpu', volt'⟩
      · exact hold
      · by_cases hg : gpu' = gpu
        · subst hg
          have hno := hst.volt
          rw [Apss.VoltConflict, hv] at hno
          have hne : s.gpuVoltType gpu' ≠ .none := by
            rw [hold]
            exact volt_ne_none hvolt
          have heq : s.gpuVoltType gpu' = volt' := by_contra fun hne' => hno ⟨hne, hne'⟩
          simp [Writes.last, ← heq, hold]
        · simpa [Writes.last, hg] using hold
    · rw [List.mem_singleton.1 hmem, hf] at hvolt
      simp [Writes.last, hvolt]

/-! ## Pins -/

namespace ApssConfig

variable (cmd : ApssConfig)

/-- What the pins of a port write to their map. -/
def pinWrites (port : Fin 2) (pin : Fin 8) : List (GpioPlace × BitVec 8) :=
  (cmd.placeOf port pin).toList.map (·, BitVec.ofNat 8 (Apss.pinOf port pin))

def portWrites (port : Fin 2) : List (GpioPlace × BitVec 8) := (List.finRange 8).flatMap (cmd.pinWrites port)

end ApssConfig

namespace Apss

theorem storeGpioPin_ok {s t : Apss} {id : BitVec 8} {pin : GpioPin} (h : s.storeGpioPin id pin = (t, none)) :
    (∀ place, (gpioPlaces[id.toNat]?).join = some place → s.gpioMap place = sysCfgInvalidPin) ∧
      t = { s with gpioMap := puts ((gpioPlaces[id.toNat]?).join.toList.map (·, BitVec.ofNat 8 pin)) s.gpioMap } := by
  unfold storeGpioPin at h
  generalize gpioPlaces[id.toNat]? = found at h ⊢
  rcases found with _ | _ | place
  · cases h
  · cases h
    exact ⟨nofun, rfl⟩
  · dsimp only at h
    split at h
    case isTrue hfree =>
      cases h
      refine ⟨?_, rfl⟩
      rintro _ ⟨⟩
      exact hfree
    case isFalse => cases h

theorem storeGpioPort_ok {cmd : ApssConfig} {s t : Apss} {port : Fin 2} {ws : List (GpioPlace × BitVec 8)}
    (h : storeGpioPort cmd s port = (t, none)) (hs : Writes.Fresh sysCfgInvalidPin ws s.gpioMap) :
    Writes.Fresh sysCfgInvalidPin (ws ++ cmd.portWrites port) t.gpioMap ∧
      t = { s with
        gpioMap := t.gpioMap
        gpioPortsMode := puts [(port, (cmd.gpio port).mode)] s.gpioPortsMode } := by
  refine Writes.storeAll_ok (P := fun done u =>
    Writes.Fresh sysCfgInvalidPin (ws ++ done.flatMap (cmd.pinWrites port)) u.gpioMap ∧
      u = { s with
        gpioMap := u.gpioMap
        gpioPortsMode := puts [(port, (cmd.gpio port).mode)] s.gpioPortsMode }) ?_ ⟨?_, rfl⟩ h
  · rintro done u pin v ⟨hu, hframe⟩ huv
    obtain ⟨hfree, rfl⟩ := storeGpioPin_ok huv
    constructor
    · rw [List.flatMap_append, List.flatMap_singleton, ← List.append_assoc]
      exact hu.snoc_option hfree (ofNat_ne_invalid _)
    · rw [hframe]
  · rwa [List.flatMap_nil, List.append_nil]

theorem storeGpioPorts_ok {cmd : ApssConfig} {s t : Apss} {ports : List (Fin 2)}
    (h : storeAll (storeGpioPort cmd) s ports = (t, none)) (hs : s.gpioMap = fun _ => sysCfgInvalidPin) :
    Writes.Fresh sysCfgInvalidPin (ports.flatMap cmd.portWrites) t.gpioMap ∧
      t = { s with
        gpioMap := t.gpioMap
        gpioPortsMode := puts (ports.map fun port => (port, (cmd.gpio port).mode)) s.gpioPortsMode } := by
  refine Writes.storeAll_ok (P := fun done u =>
    Writes.Fresh sysCfgInvalidPin (done.flatMap cmd.portWrites) u.gpioMap ∧
      u = { s with
        gpioMap := u.gpioMap
        gpioPortsMode := puts (done.map fun port => (port, (cmd.gpio port).mode)) s.gpioPortsMode }) ?_ ⟨?_, rfl⟩ h
  · rintro done u port v ⟨hu, hframe⟩ huv
    obtain ⟨hv, hvframe⟩ := storeGpioPort_ok huv hu
    constructor
    · rwa [List.flatMap_append, List.flatMap_singleton]
    · rw [hvframe, hframe, List.map_append, Writes.puts_append]
      rfl
  · rw [hs]
    exact .nil

end Apss

/-! ## Packets -/

namespace ApssConfig

variable (chipId : BitVec 8) (cmd : ApssConfig)

def calWrite (channel : AdcChannel) : AdcChannel × ApssCal := (channel, (cmd.adc channel).cal)

/-- The IDs that the channels write for the memory power sensor, for the GPU power sensor and for their own. -/
def memSidWrites (channel : AdcChannel) : List (Unit × BitVec 32) :=
  if (cmd.fn channel).MemoryOf chipId then [((), (cmd.adc channel).ipmisensorId)] else []

def gpuSidWrites (channel : AdcChannel) : List (Unit × BitVec 32) :=
  if (cmd.adc channel).ipmisensorId ≠ 0 ∧ (cmd.fn channel).GpuOf chipId then [((), (cmd.adc channel).ipmisensorId)]
  else []

def channelSidWrites (channel : AdcChannel) : List (AdcChannel × BitVec 32) :=
  if (cmd.fn channel).ReportsPower then [(channel, (cmd.adc channel).ipmisensorId)] else []

/-- The type of the power readings after the packet: an APSS without any function is none. -/
def pwrReadingType : BitVec 8 :=
  if cmd.type = pwrReadingTypeApss then
    if ∃ channel ∈ cmd.channels, (cmd.adc channel).assignment ≠ 0 then pwrReadingTypeApss else pwrReadingTypeNone
  else cmd.type

/-- The ports whose pins are read. -/
def ports : List (Fin 2) := if cmd.pwrReadingType = pwrReadingTypeApss then List.finRange 2 else []

end ApssConfig

/-- What channels leave: the maps that were reset are theirs alone, the others have what they write. -/
structure ChannelsStored (chipId : BitVec 8) (cmd : ApssConfig) (channels : List AdcChannel) (s t : Apss) : Prop where
  adc : AdcInv cmd channels t
  gpuVoltType : t.gpuVoltType = puts (channels.flatMap fun channel => (cmd.fn channel).volt.toList) s.gpuVoltType
  foundVolt2 : t.foundVolt2 =
    (s.foundVolt2 || channels.any fun channel => (cmd.fn channel).volt.any (·.2 == .volt2))
  gpioMap : t.gpioMap = s.gpioMap
  gpioPortsMode : t.gpioPortsMode = s.gpioPortsMode
  chToFunction : t.chToFunction = puts (channels.flatMap cmd.functionWrites) s.chToFunction
  cal : t.cal = puts (channels.map cmd.calWrite) s.cal
  pwrMemSid : (fun _ => t.pwrMemSid) = puts (channels.flatMap (cmd.memSidWrites chipId)) fun _ => s.pwrMemSid
  pwrGpuSid : (fun _ => t.pwrGpuSid) = puts (channels.flatMap (cmd.gpuSidWrites chipId)) fun _ => s.pwrGpuSid
  pwrApssChSid : t.pwrApssChSid = puts (channels.flatMap cmd.channelSidWrites) s.pwrApssChSid
  pwrReadingType : t.pwrReadingType =
    if s.pwrReadingType = pwrReadingTypeNone then
      if ∃ channel ∈ channels, (cmd.adc channel).assignment ≠ 0 then pwrReadingTypeApss else pwrReadingTypeNone
    else s.pwrReadingType

theorem ChannelsStored.stored {chipId : BitVec 8} {cmd : ApssConfig} {done : List AdcChannel} {s t u : Apss}
    {channel : AdcChannel} {f : AdcFunction} (h : ChannelsStored chipId cmd done s t)
    (hst : t.Stored chipId cmd channel f u) : ChannelsStored chipId cmd (done ++ [channel]) s u := by
  have hf : cmd.fn channel = f := by rw [ApssConfig.fn, hst.id, Option.getD_some]
  constructor
  case adc => exact h.adc.stored hst
  case gpuVoltType =>
    rw [List.flatMap_append, List.flatMap_singleton, Writes.puts_append, ← h.gpuVoltType, hf, hst.eq]
  case foundVolt2 =>
    rw [List.any_append, ← Bool.or_assoc, ← h.foundVolt2, List.any_cons, List.any_nil, Bool.or_false, hf, hst.eq]
  case gpioMap => rw [hst.eq, h.gpioMap]
  case gpioPortsMode => rw [hst.eq, h.gpioPortsMode]
  case chToFunction =>
    rw [List.flatMap_append, List.flatMap_singleton, Writes.puts_append, ← h.chToFunction, ApssConfig.functionWrites, hf,
      hst.eq]
  case cal =>
    rw [List.map_append, Writes.puts_append, ← h.cal, hst.eq]
    rfl
  case pwrMemSid =>
    rw [List.flatMap_append, List.flatMap_singleton, Writes.puts_append, ← h.pwrMemSid, ApssConfig.memSidWrites, hf,
      hst.eq, Writes.puts_ite]
    dsimp only [Apss.storeIpmiSensorId]
    split <;> rfl
  case pwrGpuSid =>
    rw [List.flatMap_append, List.flatMap_singleton, Writes.puts_append, ← h.pwrGpuSid, ApssConfig.gpuSidWrites, hf,
      hst.eq, Writes.puts_ite]
    dsimp only [Apss.storeIpmiSensorId]
    split <;> rfl
  case pwrApssChSid =>
    rw [List.flatMap_append, List.flatMap_singleton, Writes.puts_append, ← h.pwrApssChSid, ApssConfig.channelSidWrites,
      hf, hst.eq, Writes.puts_ite]
    rfl
  case pwrReadingType =>
    rw [hst.eq]
    dsimp only
    rw [h.pwrReadingType]
    by_cases hs : s.pwrReadingType = pwrReadingTypeNone
    · rw [if_pos hs, if_pos hs]
      simp only [List.mem_append, List.mem_singleton, or_and_right, exists_or, exists_eq_left]
      by_cases hdone : ∃ channel ∈ done, (cmd.adc channel).assignment ≠ 0
      · have hnone : pwrReadingTypeApss ≠ pwrReadingTypeNone := by decide
        rw [if_pos hdone, if_neg (fun h => hnone h.2)]
        exact (if_pos (.inl hdone)).symm
      · rw [if_neg hdone]
        by_cases hch : (cmd.adc channel).assignment ≠ 0
        · rw [if_pos ⟨hch, rfl⟩]
          exact (if_pos (.inr hch)).symm
        · rw [if_neg (fun h => hch h.1)]
          exact (if_neg (fun h => h.elim hdone hch)).symm
    · rw [if_neg hs, if_neg hs, if_neg]
      exact fun h => hs h.2

theorem storeChannels_ok {chipId : BitVec 8} {cmd : ApssConfig} {s t : Apss} {channels : List AdcChannel}
    (h : storeAll (Apss.storeChannel chipId cmd) s channels = (t, none))
    (hs : s.adcMap = fun _ => sysCfgInvalidAdcChan) : ChannelsStored chipId cmd channels s t := by
  refine Writes.storeAll_ok (P := fun done u => ChannelsStored chipId cmd done s u) ?_ ?_ h
  · rintro done u channel v hu huv
    obtain ⟨f, hf⟩ := Apss.storeChannel_ok huv
    exact hu.stored hf
  · refine ⟨⟨by rw [hs]; exact .nil, nofun⟩, rfl, by rw [List.any_nil, Bool.or_false], rfl, rfl, rfl, rfl, rfl, rfl, rfl, ?_⟩
    split
    · simp [*]
    · rfl

/-- The state in which a packet finds the maps when its channels are stored. -/
def ApssConfig.start (cmd : ApssConfig) (s : Apss) : Apss :=
  { s.reset with pwrReadingType := if cmd.type = pwrReadingTypeApss then pwrReadingTypeNone else cmd.type }

/-- What an accepted packet leaves: its channels, and its pins, each in its own place. -/
structure ApssStored (chipId : BitVec 8) (cmd : ApssConfig) (s t : Apss) : Prop where
  channels : ∃ u, ChannelsStored chipId cmd cmd.channels (cmd.start s) u ∧
    t = { u with
      gpioMap := t.gpioMap
      gpioPortsMode := puts (cmd.ports.map fun port => (port, (cmd.gpio port).mode)) s.gpioPortsMode }
  pwrReadingType : t.pwrReadingType = cmd.pwrReadingType
  pins : Writes.Fresh sysCfgInvalidPin (cmd.ports.flatMap cmd.portWrites) t.gpioMap

theorem dataStoreApssConfigV20_ok {chipId : BitVec 8} {cmd : ApssConfig} {s t : Apss}
    (htype : cmd.type = pwrReadingType2Channel ∨ cmd.type = pwrReadingTypeApss)
    (h : dataStoreApssConfigV20 chipId { s.reset with pwrReadingType := cmd.type } cmd = (t, none)) :
    ApssStored chipId cmd s t := by
  have hchannels : channelsOf cmd.type = cmd.channels := by
    rw [ApssConfig.channels, if_neg]
    rcases htype with htype | htype <;> rw [htype] <;> decide
  have hstart : (if cmd.type = pwrReadingType2Channel then { s.reset with pwrReadingType := cmd.type }
      else { s.reset with pwrReadingType := pwrReadingTypeNone }) = cmd.start s := by
    rcases htype with htype | htype <;> rw [ApssConfig.start, htype] <;> rfl
  unfold dataStoreApssConfigV20 at h
  dsimp only at h
  rw [hstart, hchannels] at h
  split at h
  case h_1 => cases h
  case h_2 u hu =>
    have hst := storeChannels_ok hu rfl
    have hpwr : u.pwrReadingType = cmd.pwrReadingType := by
      rw [hst.pwrReadingType, ApssConfig.pwrReadingType]
      rcases htype with htype | htype <;> simp only [ApssConfig.start, htype] <;> rfl
    split at h
    case isTrue => cases h
    case isFalse =>
      split at h
      case isTrue hapss =>
        obtain ⟨hpins, hframe⟩ := Apss.storeGpioPorts_ok h hst.gpioMap
        have hports : cmd.ports = List.finRange 2 := by rw [ApssConfig.ports, ← hpwr, if_pos hapss]
        refine ⟨⟨u, hst, ?_⟩, ?_, ?_⟩
        · rw [hports, hframe, hst.gpioPortsMode]
          rfl
        · rw [hframe, hpwr]
        · rw [hports]
          exact hpins
      case isFalse hapss =>
        have hports : cmd.ports = [] := by rw [ApssConfig.ports, ← hpwr, if_neg hapss]
        cases h
        refine ⟨⟨t, hst, ?_⟩, hpwr, ?_⟩
        · rw [hports, List.map_nil]
          exact congrArg (fun mode => { t with gpioPortsMode := mode }) hst.gpioPortsMode
        · rw [hports, hst.gpioMap]
          exact .nil

theorem dataStoreApssConfig_ok {chipId : BitVec 8} {cmd : ApssConfig} {s t : Apss}
    (h : dataStoreApssConfig chipId s cmd = (t, none)) : ApssStored chipId cmd s t := by
  unfold dataStoreApssConfig at h
  dsimp only at h
  split at h
  case isTrue => cases h
  case isFalse =>
    split at h
    case isTrue htype => exact dataStoreApssConfigV20_ok (htype.imp And.left And.left) h
    case isFalse =>
      split at h
      case isTrue => cases h
      case isFalse hnone =>
        have htype : cmd.type = pwrReadingTypeNone := by
          by_contra hne
          exact hnone (.inl hne)
        have hchannels : cmd.channels = [] := if_pos htype
        have hpwr : cmd.pwrReadingType = pwrReadingTypeNone := by
          rw [ApssConfig.pwrReadingType, htype]
          rfl
        have hports : cmd.ports = [] := by
          rw [ApssConfig.ports, hpwr]
          rfl
        cases h
        refine ⟨⟨cmd.start s, ?_, ?_⟩, htype.trans hpwr.symm, ?_⟩
        · rw [hchannels]
          exact @storeChannels_ok _ _ _ _ [] rfl rfl
        · rw [hports, List.map_nil, ApssConfig.start, htype]
          rfl
        · rw [hports]
          exact .nil

/-! ## The two maps -/

theorem mem_adcWrites {cmd : ApssConfig} {channel : AdcChannel} {place : AdcPlace} {x : BitVec 8} :
    (place, x) ∈ cmd.adcWrites channel ↔ (cmd.fn channel).place = some place ∧ x = BitVec.ofNat 8 channel := by
  simp [ApssConfig.adcWrites, eq_comm]

theorem mem_functionWrites {cmd : ApssConfig} {channel channel' : AdcChannel} {f : AdcFunction} :
    (channel', f) ∈ cmd.functionWrites channel ↔
      cmd.fn channel ≠ .reserved ∧ channel' = channel ∧ f = cmd.fn channel := by
  rw [ne_eq, ← place_eq_none_iff, ApssConfig.functionWrites]
  rcases (cmd.fn channel).place with _ | place <;> simp

theorem AdcInv.assigns_iff {cmd : ApssConfig} {s : Apss} (h : AdcInv cmd cmd.channels s) {f : AdcFunction}
    (hf : f ≠ .reserved) {channel : AdcChannel} : s.Assigns f channel ↔ cmd.functionOf channel = f := by
  constructor
  · rintro ⟨⟨place, hplace, hmap⟩, hvolt⟩
    obtain ⟨channel', hmem, hw⟩ := List.mem_flatMap.1 ((h.fresh.apply_eq_iff (ofNat_ne_invalid channel)).1 hmap)
    obtain ⟨hplace', heq⟩ := mem_adcWrites.1 hw
    obtain rfl := ofNat_inj heq
    have hsame : f.place = (cmd.fn channel).place := hplace.trans hplace'.symm
    rw [ApssConfig.functionOf, if_pos hmem, ← ApssConfig.fn]
    refine (eq_of_place hsame ?_).symm
    have hgpu := volt_of_place hsame
    rcases hv : f.volt with _ | ⟨gpu, volt⟩ <;> rcases hv' : (cmd.fn channel).volt with _ | ⟨gpu', volt'⟩
    · rfl
    · rw [hv, hv'] at hgpu
      cases hgpu
    · rw [hv, hv'] at hgpu
      cases hgpu
    · rw [hv, hv'] at hgpu
      obtain rfl : gpu = gpu' := Option.some.inj hgpu
      rw [← hvolt gpu volt hv, ← h.volt channel hmem gpu volt' hv']
  · rintro rfl
    by_cases hmem : channel ∈ cmd.channels
    · rw [ApssConfig.functionOf, if_pos hmem, ← ApssConfig.fn] at hf ⊢
      obtain ⟨place, hplace⟩ := Option.ne_none_iff_exists'.1 (mt place_eq_none_iff.1 hf)
      refine ⟨⟨place, hplace, ?_⟩, h.volt channel hmem⟩
      exact (h.fresh.apply_eq_iff (ofNat_ne_invalid channel)).2
        (List.mem_flatMap.2 ⟨channel, hmem, mem_adcWrites.2 ⟨hplace, rfl⟩⟩)
    · exact absurd (if_neg hmem) hf

/-- The other map has the functions of the packet, and those that were there before. -/
theorem functionWrites_apply {cmd : ApssConfig} {m : AdcChannel → AdcFunction} {channel : AdcChannel} :
    puts (cmd.channels.flatMap cmd.functionWrites) m channel =
      if cmd.functionOf channel = .reserved then m channel else cmd.functionOf channel := by
  by_cases hf : cmd.functionOf channel = .reserved
  · rw [if_pos hf]
    apply Writes.puts_apply_of_not_mem
    rintro ⟨channel', f⟩ hw rfl
    obtain ⟨channel, hmem, hw⟩ := List.mem_flatMap.1 hw
    obtain ⟨hne, rfl, -⟩ := mem_functionWrites.1 hw
    rw [ApssConfig.functionOf, if_pos hmem] at hf
    exact hne hf
  · rw [if_neg hf]
    have hmem : channel ∈ cmd.channels := by
      by_contra hmem
      exact hf (if_neg hmem)
    rw [ApssConfig.functionOf, if_pos hmem] at hf ⊢
    apply Writes.puts_apply_of_mem
    · exact List.mem_flatMap.2 ⟨channel, hmem, mem_functionWrites.2 ⟨hf, rfl, rfl⟩⟩
    · rintro f hw
      obtain ⟨channel', -, hw⟩ := List.mem_flatMap.1 hw
      obtain ⟨-, rfl, rfl⟩ := mem_functionWrites.1 hw
      rfl

/-! ## Accepted packets -/

section Accepted

variable {chipId : BitVec 8} {cmd : ApssConfig} {s t : Apss}

theorem ApssStored.adc (h : ApssStored chipId cmd s t) : AdcInv cmd cmd.channels t := by
  obtain ⟨u, hu, heq⟩ := h.channels
  rw [heq]
  exact ⟨hu.adc.fresh, hu.adc.volt⟩

theorem ApssStored.chToFunction (h : ApssStored chipId cmd s t) (channel : AdcChannel) :
    t.chToFunction channel =
      if cmd.functionOf channel = .reserved then s.chToFunction channel else cmd.functionOf channel := by
  obtain ⟨u, hu, heq⟩ := h.channels
  rw [heq, ← functionWrites_apply]
  exact congrFun hu.chToFunction channel

theorem pinOf_inj {port port' : Fin 2} {pin pin' : Fin 8} (h : Apss.pinOf port pin = Apss.pinOf port' pin') :
    port = port' ∧ pin = pin' := by
  revert port port' pin pin'
  decide

theorem mem_portWrites {port : Fin 2} {place : GpioPlace} {x : BitVec 8} :
    (place, x) ∈ cmd.portWrites port ↔
      ∃ pin, cmd.placeOf port pin = some place ∧ x = BitVec.ofNat 8 (Apss.pinOf port pin) := by
  simp [ApssConfig.portWrites, ApssConfig.pinWrites, eq_comm]

theorem ApssStored.pin (h : ApssStored chipId cmd s t) (hpwr : t.pwrReadingType = pwrReadingTypeApss)
    (place : GpioPlace) (port : Fin 2) (pin : Fin 8) :
    t.gpioMap place = BitVec.ofNat 8 (Apss.pinOf port pin) ↔ cmd.placeOf port pin = some place := by
  have hports : cmd.ports = List.finRange 2 := by rw [ApssConfig.ports, ← h.pwrReadingType, if_pos hpwr]
  rw [h.pins.apply_eq_iff (ofNat_ne_invalid _), hports]
  constructor
  · intro hw
    obtain ⟨port', -, hw⟩ := List.mem_flatMap.1 hw
    obtain ⟨pin', hplace, heq⟩ := mem_portWrites.1 hw
    obtain ⟨rfl, rfl⟩ := pinOf_inj (ofNat_inj heq)
    exact hplace
  · intro hplace
    exact List.mem_flatMap.2 ⟨port, List.mem_finRange port, mem_portWrites.2 ⟨pin, hplace, rfl⟩⟩

/-- The function-to-channel map is the assignment of the packet. The other map is too, exactly when each channel that the
packet leaves without a function had none before: an old entry is never cleared. -/
theorem apssLaw_iff_unassigned (h : dataStoreApssConfig chipId s cmd = (t, none)) :
    ApssLaw cmd t ↔ ∀ channel, cmd.functionOf channel = .reserved → s.chToFunction channel = .reserved := by
  have hst := dataStoreApssConfig_ok h
  have hfunction : ∀ f channel channel', t.Assigns f channel → t.Assigns f channel' → channel = channel' := by
    rintro f channel channel' ⟨⟨place, hplace, hmap⟩, -⟩ ⟨⟨place', hplace', hmap'⟩, -⟩
    obtain rfl := Option.some.inj (hplace.symm.trans hplace')
    exact ofNat_inj (hmap.symm.trans hmap')
  constructor
  · intro hlaw channel hnone
    by_contra hold
    have hch := hst.chToFunction channel
    rw [if_pos hnone] at hch
    have hassigns := (hlaw.inverse _ channel hold).2 hch
    rw [hst.adc.assigns_iff hold, hnone] at hassigns
    exact hold hassigns.symm
  · intro hnone
    have hch : ∀ channel, t.chToFunction channel = cmd.functionOf channel := by
      intro channel
      rw [hst.chToFunction channel]
      split
      case isTrue hres => rw [hnone channel hres, hres]
      case isFalse => rfl
    constructor
    case inverse =>
      rintro f channel hf
      rw [hst.adc.assigns_iff hf, hch]
    case function => exact hfunction
    case channel =>
      rintro f g channel hf hg
      have hne : ∀ {f}, t.Assigns f channel → f ≠ .reserved := by
        rintro f ⟨⟨place, hplace, -⟩, -⟩ rfl
        cases hplace
      exact ((hst.adc.assigns_iff (hne hf)).1 hf).symm.trans ((hst.adc.assigns_iff (hne hg)).1 hg)
    case once =>
      rintro channel channel' hne heq
      apply hfunction (cmd.functionOf channel)
      · exact (hst.adc.assigns_iff hne).2 rfl
      · exact (hst.adc.assigns_iff hne).2 heq.symm
    case pin => exact hst.pin
    case oncePin =>
      rintro hpwr port pin port' pin' hne heq
      obtain ⟨place, hplace⟩ := Option.ne_none_iff_exists'.1 hne
      have hmap := (hst.pin hpwr place port pin).2 hplace
      have hmap' := (hst.pin hpwr place port' pin').2 (heq.symm.trans hplace)
      exact pinOf_inj (ofNat_inj (hmap.symm.trans hmap'))
    case noPin =>
      rintro hpwr place
      have hports : cmd.ports = [] := by rw [ApssConfig.ports, ← hst.pwrReadingType, if_neg hpwr]
      rw [hst.pins.apply_eq_free_iff, hports]
      exact nofun

end Accepted

/-- A packet of the full size with these function IDs, from channel 0 on, and no pins. -/
def sampleApssConfig (ids : List (BitVec 8)) : ApssConfig where
  dataLength := BitVec.ofNat 16 apssV20DataSize
  version := dataApssVersion20
  type := pwrReadingTypeApss
  adc channel := ⟨ids.getD channel 0, 0, 0, 1000, 0⟩
  gpio _ := ⟨0, fun _ => 0⟩

theorem sampleApssConfig_accepted :
    (dataStoreApssConfig 0 .boot (sampleApssConfig [0x14, 0x18, 0x0D])).2 = none := by
  decide

theorem apssLaw_iff_unassigned_boot :
    ApssLaw (sampleApssConfig [0x14, 0x18, 0x0D]) (dataStoreApssConfig 0 .boot (sampleApssConfig [0x14, 0x18, 0x0D])).1 :=
  (apssLaw_iff_unassigned (Prod.ext rfl sampleApssConfig_accepted)).2 fun _ _ => rfl

/-- The states after a packet and after a second one, which has no function for channel 2. -/
def afterConfig : Apss := (dataStoreApssConfig 0 .boot (sampleApssConfig [0x14, 0x18, 0x0D])).1
def afterTwoConfigs : Apss := (dataStoreApssConfig 0 afterConfig (sampleApssConfig [0x14, 0x18])).1

theorem afterTwoConfigs_maps :
    (dataStoreApssConfig 0 afterConfig (sampleApssConfig [0x14, 0x18])).2 = none ∧
      afterTwoConfigs.chToFunction 2 = .io 0 ∧ afterTwoConfigs.adcMap (.io 0) = sysCfgInvalidAdcChan := by
  decide

/-- Channel 2 keeps its old function, which has no channel. -/
theorem old_function_kept :
    (dataStoreApssConfig 0 .boot (sampleApssConfig [0x14, 0x18, 0x0D])).2 = none ∧
      (dataStoreApssConfig 0 afterConfig (sampleApssConfig [0x14, 0x18])).2 = none ∧
      ¬ApssLaw (sampleApssConfig [0x14, 0x18]) afterTwoConfigs := by
  obtain ⟨haccepted, hch, hmap⟩ := afterTwoConfigs_maps
  refine ⟨sampleApssConfig_accepted, haccepted, fun hlaw => ?_⟩
  obtain ⟨⟨place, hplace, hmap'⟩, -⟩ := (hlaw.inverse (.io 0) 2 nofun).2 hch
  obtain rfl := Option.some.inj hplace
  rw [hmap] at hmap'
  exact absurd hmap' (by decide)

end Occ.Cmdh
