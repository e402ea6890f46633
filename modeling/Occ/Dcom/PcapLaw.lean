/-
The propagation of power caps: a slave has the caps of the last doorbell it accepted, as long as the doorbell was not
built between the stores of a command and the changes since the last one it accepted are not a multiple of 256. A
count tells two doorbells apart only up to that number.
-/
import Occ.Dcom.Pcap
import Occ.Lib.Transition
import Occ.Lib.Literals

namespace Occ.Dcom

open Transition
open Function (update)

attribute [local instance] neZero_eight

/-! ## The law -/

/-- The least of the user and the system cap that is not zero. -/
structure IsNodePcap (p : PcapConfigData) (v : BitVec 16) : Prop where
  mem : (v = p.currentPcap ∧ v ≠ 0) ∨ (v = p.systemPcap ∧ v ≠ 0) ∨ (v = 0xFFFF ∧ p.currentPcap = 0 ∧ p.systemPcap = 0)
  current : p.currentPcap ≠ 0 → v ≤ p.currentPcap
  system : p.systemPcap ≠ 0 → v ≤ p.systemPcap

/-- The slave has the caps of a doorbell. -/
structure PcapSlave.Took (sl : PcapSlave) (d : SlvInboxDoorbell) : Prop where
  norm : IsNodePcap d.pcap sl.normNodePcap
  ovs : sl.ovsNodePcap = if d.pcap.oversubPcap = 0 then d.pcap.hardMinPcap else d.pcap.oversubPcap
  ppbFmax : sl.ppbFmax = d.ppbFmax

/-- Zero, or within the limits. -/
def UserPcap.Allowed (u : UserPcap) : Prop := u.pcap = 0 ∨ (u.softMin ≤ u.pcap ∧ (u.system ≠ 0 → u.pcap ≤ u.system))

structure PcapLaw (s : PcapSystem) : Prop where
  slaves : ∀ i d, (s.receivers i).last = some d → (s.receivers i).slave.Took d.doorbell
  users : ∀ u ∈ s.master.accepted, u.Allowed

/-- How often the count had changed when the last accepted doorbell was built. -/
def PcapReceiver.version (r : PcapReceiver) : Nat := (r.last.map (·.version)).getD 0

/-- An accepted doorbell was built after a change, with no cap stored since the last one, and the number of changes since
the last accepted one is not a multiple of 256; between the load and the store of the count it changes at most once. -/
def PcapOk (s : PcapSystem) : PcapEvent → Prop
  | .accept i k _ => ∀ d ∈ s.sent[k]?, d.dirty = false ∧ 0 < d.version ∧
      (d.version % 256 = (s.receivers i).version % 256 → d.version = (s.receivers i).version)
  | .store => s.master.thread.head? = some .storeCount →
      s.master.data.pcapDataCount = s.master.reg ∨ s.master.data.pcapDataCount = s.master.reg + 1
  | _ => True

instance (s : PcapSystem) (e : PcapEvent) : Decidable (PcapOk s e) := by
  cases e <;> unfold PcapOk <;> infer_instance

/-! ## Taking caps -/

section Took

variable {kvm : Bool} {d e : SlvInboxDoorbell} {sl : PcapSlave}

theorem isNodePcap_min (p : PcapConfigData) :
    IsNodePcap p (if capOrMax p.currentPcap < capOrMax p.systemPcap then capOrMax p.currentPcap
      else capOrMax p.systemPcap) := by
  unfold capOrMax
  constructor <;> grind

theorem took_of_count_ne (h : sl.pcapDataCount ≠ d.pcap.pcapDataCount) :
    (amecDataWritePcap kvm d sl).Took d ∧ (amecDataWritePcap kvm d sl).pcapDataCount = d.pcap.pcapDataCount := by
  unfold amecDataWritePcap
  rw [if_pos h]
  refine ⟨⟨isNodePcap_min d.pcap, ?_, rfl⟩, rfl⟩
  by_cases ho : d.pcap.oversubPcap = 0 <;> simp [ho]

theorem write_of_count_eq (h : sl.pcapDataCount = d.pcap.pcapDataCount) :
    amecDataWritePcap kvm d sl = { sl with ppbFmax := d.ppbFmax } := by
  unfold amecDataWritePcap
  rw [if_neg (not_not_intro h)]

/-- The fields that a slave's caps come from. -/
structure SameCaps (p q : PcapConfigData) : Prop where
  current : p.currentPcap = q.currentPcap
  system : p.systemPcap = q.systemPcap
  oversub : p.oversubPcap = q.oversubPcap
  hardMin : p.hardMinPcap = q.hardMinPcap

theorem SameCaps.symm {p q : PcapConfigData} (h : SameCaps p q) : SameCaps q p :=
  ⟨h.current.symm, h.system.symm, h.oversub.symm, h.hardMin.symm⟩

theorem PcapSlave.Took.of_sameCaps (h : sl.Took e) (hc : SameCaps e.pcap d.pcap) :
    ({ sl with ppbFmax := d.ppbFmax } : PcapSlave).Took d := by
  refine ⟨⟨?_, ?_, ?_⟩, ?_, rfl⟩
  · rw [← hc.current, ← hc.system]
    exact h.norm.mem
  · rw [← hc.current]
    exact h.norm.current
  · rw [← hc.system]
    exact h.norm.system
  · rw [← hc.oversub, ← hc.hardMin]
    exact h.ovs

end Took

/-! ## Invariant -/

/-- The count is the number of its changes, and tells the caps that doorbells were built with. -/
structure PcapInv (m : PcapMaster) (sent : List SentDoorbell) : Prop where
  count : m.data.pcapDataCount = BitVec.ofNat 8 m.version
  doorbells : ∀ d ∈ sent, d.version ≤ m.version ∧ d.doorbell.pcap.pcapDataCount = BitVec.ofNat 8 d.version
  settled : ∀ d ∈ sent, d.dirty = false → d.version = m.version → m.dirty = false → SameCaps d.doorbell.pcap m.data
  same : ∀ d ∈ sent, ∀ e ∈ sent, d.dirty = false → e.dirty = false → d.version = e.version →
    SameCaps d.doorbell.pcap e.doorbell.pcap

structure ReceiverInv (r : PcapReceiver) (sent : List SentDoorbell) : Prop where
  count : r.slave.pcapDataCount = BitVec.ofNat 8 r.version
  last : ∀ d, r.last = some d → d ∈ sent ∧ d.dirty = false ∧ 0 < d.version ∧ r.slave.Took d.doorbell

section Master

variable {m n : PcapMaster} {sent : List SentDoorbell}

theorem PcapInv.setCount (h : PcapInv m sent) {v : BitVec 8} {data : PcapConfigData} {dirty : Bool}
    {thread : List PcapStore} {accepted : List UserPcap} (hv : v = m.data.pcapDataCount + 1)
    (hn : n = { m with
      data := { data with pcapDataCount := v }, version := m.version + 1, dirty := dirty, thread := thread
      accepted := accepted }) : PcapInv n sent := by
  subst hn
  refine ⟨?_, fun d hd => ⟨Nat.le_succ_of_le (h.doorbells d hd).1, (h.doorbells d hd).2⟩, fun d hd _ hver _ => ?_, h.same⟩
  · show v = _
    rw [hv, h.count, BitVec.ofNat_add]
    rfl
  · exact absurd hver (Nat.lt_succ_of_le (h.doorbells d hd).1).ne

theorem PcapInv.setOther (h : PcapInv m sent) (hc : SameCaps m.data n.data)
    (hcount : n.data.pcapDataCount = m.data.pcapDataCount) (hversion : n.version = m.version) (hdirty : n.dirty = m.dirty) :
    PcapInv n sent := by
  refine ⟨?_, ?_, ?_, h.same⟩
  · rw [hcount, hversion]
    exact h.count
  · rw [hversion]
    exact h.doorbells
  · intro d hd hs hver hm
    have := h.settled d hd hs (hversion ▸ hver) (hdirty ▸ hm)
    exact ⟨this.current.trans hc.current, this.system.trans hc.system, this.oversub.trans hc.oversub,
      this.hardMin.trans hc.hardMin⟩

theorem PcapInv.store (h : PcapInv m sent) {st : PcapStore} {rest : List PcapStore}
    (hok : st = .storeCount → m.data.pcapDataCount = m.reg ∨ m.data.pcapDataCount = m.reg + 1) :
    PcapInv { m.store st with thread := rest } sent := by
  cases st with
  | softMin v => exact h.setOther ⟨rfl, rfl, rfl, rfl⟩ rfl rfl rfl
  | maxPcap v => exact h.setOther ⟨rfl, rfl, rfl, rfl⟩ rfl rfl rfl
  | source v => exact h.setOther ⟨rfl, rfl, rfl, rfl⟩ rfl rfl rfl
  | loadCount => exact h.setOther ⟨rfl, rfl, rfl, rfl⟩ rfl rfl rfl
  | hardMin v => exact ⟨h.count, h.doorbells, nofun, h.same⟩
  | oversub v => exact ⟨h.count, h.doorbells, nofun, h.same⟩
  | system v => exact ⟨h.count, h.doorbells, nofun, h.same⟩
  | current v => exact ⟨h.count, h.doorbells, nofun, h.same⟩
  | storeCount =>
    show PcapInv { m.setCount (m.reg + 1) with thread := rest } sent
    unfold PcapMaster.setCount
    split
    · exact h.setOther ⟨rfl, rfl, rfl, rfl⟩ rfl rfl rfl
    · rename_i hne
      rcases hok rfl with hreg | hreg
      · exact @PcapInv.setCount _ _ _ h (m.reg + 1) m.data _ _ _ (by rw [hreg]) rfl
      · exact absurd hreg.symm hne

theorem checkUserPcap_allowed {pcap : BitVec 16} (h : m.checkUserPcap pcap = errlRcSuccess) :
    UserPcap.Allowed ⟨pcap, m.data.softMinPcap, m.data.systemPcap⟩ := by
  unfold PcapMaster.checkUserPcap at h
  split at h
  · cases h
  · split at h
    · cases h
    · rename_i hlow
      split at h
      · cases h
      · rename_i hhigh
        by_cases hz : pcap = 0
        · exact .inl hz
        · refine .inr ⟨?_, fun hs => ?_⟩
          · exact BitVec.not_lt.1 fun hlt => hlow ⟨hz, hlt⟩
          · exact BitVec.not_lt.1 fun hlt => hhigh ⟨hlt, hs⟩

end Master

/-! ## Steps -/

structure SystemInv (s : PcapSystem) : Prop where
  master : PcapInv s.master s.sent
  receivers : ∀ i, ReceiverInv (s.receivers i) s.sent
  users : ∀ u ∈ s.master.accepted, u.Allowed

theorem SystemInv.law {s : PcapSystem} (h : SystemInv s) : PcapLaw s :=
  ⟨fun i d hd => ((h.receivers i).last d hd).2.2.2, h.users⟩

section Step

variable {s t : PcapSystem}

theorem ReceiverInv.mono {r : PcapReceiver} {sent sent' : List SentDoorbell} (h : ReceiverInv r sent)
    (hsub : ∀ d ∈ sent, d ∈ sent') : ReceiverInv r sent' :=
  ⟨h.count, fun d hd => ⟨hsub d (h.last d hd).1, (h.last d hd).2⟩⟩

theorem SystemInv.config (h : SystemInv s) (c : PcapConfig) :
    SystemInv { s with master := (dataStorePowerCap s.master c).2 } := by
  unfold dataStorePowerCap
  split
  · exact ⟨h.master.setOther ⟨rfl, rfl, rfl, rfl⟩ rfl rfl rfl, h.receivers, h.users⟩
  · exact h

theorem SystemInv.userPcap (h : SystemInv s) (len : Nat) (pcap : BitVec 16) :
    SystemInv { s with master := (cmdhSetUserPcap s.master len pcap).2 } := by
  unfold cmdhSetUserPcap
  split
  · exact h
  · split
    · rename_i hc
      refine ⟨h.master.setOther ⟨rfl, rfl, rfl, rfl⟩ rfl rfl rfl, h.receivers, fun u hu => ?_⟩
      rcases List.mem_cons.1 hu with rfl | hu
      · exact checkUserPcap_allowed hc
      · exact h.users u hu
    · exact h

theorem SystemInv.inband (h : SystemInv s) (len maxRsp : Nat) (pcap : BitVec 16) :
    SystemInv { s with master := (cmdhSetPcapInband s.master len maxRsp pcap).2 } := by
  unfold cmdhSetPcapInband
  split
  · exact h
  · split
    · exact h
    · split
      · rename_i hc
        have hne : s.master.data.pcapDataCount + 1 ≠ s.master.data.pcapDataCount := by
          intro he
          simp at he
        simp only [PcapMaster.setCount, if_neg hne]
        refine ⟨@PcapInv.setCount _ _ _ h.master (s.master.data.pcapDataCount + 1)
          { s.master.data with currentPcap := pcap, source := if pcap = 0 then 0 else inBand } _ _ _ rfl rfl,
          h.receivers, fun u hu => ?_⟩
        rcases List.mem_cons.1 hu with rfl | hu
        · exact checkUserPcap_allowed hc
        · exact h.users u hu
      · exact h

theorem SystemInv.build (h : SystemInv s) (m : MasterData) (addr : BitVec 32) (magicCounter : BitVec 8) :
    SystemInv (s.build m addr magicCounter) := by
  have hmem : ∀ d ∈ (s.build m addr magicCounter).sent, d ∈ s.sent ∨
      (d.version = s.master.version ∧ d.dirty = s.master.dirty ∧ d.doorbell.pcap = s.master.data) := by
    intro d hd
    rcases List.mem_append.1 hd with hd | hd
    · exact .inl hd
    · rw [List.mem_singleton.1 hd]
      exact .inr ⟨rfl, rfl, rfl⟩
  refine ⟨⟨h.master.count, fun d hd => ?_, fun d hd hs hver hm => ?_, fun d hd e he hds hes hver => ?_⟩,
    fun i => (h.receivers i).mono fun d hd => List.mem_append_left _ hd, h.users⟩
  · rcases hmem d hd with hd | ⟨hv, _, hp⟩
    · exact h.master.doorbells d hd
    · rw [hv, hp]
      exact ⟨Nat.le_refl _, h.master.count⟩
  · rcases hmem d hd with hd | ⟨_, _, hp⟩
    · exact h.master.settled d hd hs hver hm
    · rw [hp]
      exact ⟨rfl, rfl, rfl, rfl⟩
  · rcases hmem d hd with hd | ⟨hdv, hdd, hdp⟩
    · rcases hmem e he with he | ⟨hev, hed, hep⟩
      · exact h.master.same d hd e he hds hes hver
      · rw [hep]
        exact h.master.settled d hd hds (hver.trans hev) (hed.symm.trans hes)
    · rcases hmem e he with he | ⟨hev, hed, hep⟩
      · rw [hdp]
        exact (h.master.settled e he hes (hver.symm.trans hdv) (hdd.symm.trans hds)).symm
      · rw [hdp, hep]
        exact ⟨rfl, rfl, rfl, rfl⟩

/-- A slave that accepts a doorbell under the condition has its caps. -/
theorem ReceiverInv.accept {m : PcapMaster} {sent : List SentDoorbell} (hm : PcapInv m sent) {r : PcapReceiver}
    (h : ReceiverInv r sent) {d : SentDoorbell} (hd : d ∈ sent) (hdirty : d.dirty = false) (hpos : 0 < d.version)
    (hmod : d.version % 256 = r.version % 256 → d.version = r.version) (kvm : Bool) (k : Nat) :
    ReceiverInv (r.accept kvm k d) sent := by
  have hcount : d.doorbell.pcap.pcapDataCount = BitVec.ofNat 8 d.version := (hm.doorbells d hd).2
  have hall (htook : (amecDataWritePcap kvm d.doorbell r.slave).Took d.doorbell)
      (hc : (amecDataWritePcap kvm d.doorbell r.slave).pcapDataCount = d.doorbell.pcap.pcapDataCount) :
      ReceiverInv (r.accept kvm k d) sent := by
    refine ⟨hc.trans hcount, ?_⟩
    rintro e ⟨⟩
    exact ⟨hd, hdirty, hpos, htook⟩
  by_cases he : r.slave.pcapDataCount = d.doorbell.pcap.pcapDataCount
  · have hver : d.version = r.version := by
      refine hmod ?_
      have := congrArg BitVec.toNat (he.symm.trans h.count)
      rw [hcount, BitVec.toNat_ofNat, BitVec.toNat_ofNat] at this
      exact this
    cases hlast : r.last with
    | none =>
      rw [hver, PcapReceiver.version, hlast] at hpos
      cases hpos
    | some e =>
      obtain ⟨hemem, hes, _, htook⟩ := h.last e hlast
      have hev : e.version = d.version := by
        rw [hver, PcapReceiver.version, hlast]
        rfl
      refine hall ?_ ?_
      · rw [write_of_count_eq he]
        exact htook.of_sameCaps (hm.same e hemem d hd hes hdirty hev)
      · rw [write_of_count_eq he]
        exact he
  · exact hall (took_of_count_ne he).1 (took_of_count_ne he).2

theorem SystemInv.step (h : SystemInv s) {e : PcapEvent} (hs : Guarded PcapOk (StepOf pcapNext) s e t) : SystemInv t := by
  obtain ⟨hok, hs⟩ := hs
  cases e with
  | config c =>
    obtain ⟨_, hs⟩ := Option.ite_none_right_eq_some.1 hs
    cases hs
    exact h.config c
  | userPcap len pcap =>
    obtain ⟨_, hs⟩ := Option.ite_none_right_eq_some.1 hs
    cases hs
    exact h.userPcap len pcap
  | inband len maxRsp pcap =>
    cases hs
    exact h.inband len maxRsp pcap
  | store =>
    simp only [StepOf, pcapNext] at hs
    split at hs
    · rename_i st rest hthread
      cases hs
      refine ⟨h.master.store fun hst => ?_, h.receivers, ?_⟩
      · refine hok ?_
        rw [hthread, hst]
        rfl
      · have haccepted : (s.master.store st).accepted = s.master.accepted := by
          cases st with
          | storeCount =>
            show (s.master.setCount _).accepted = _
            unfold PcapMaster.setCount
            split <;> rfl
          | _ => rfl
        show ∀ u ∈ (s.master.store st).accepted, _
        rw [haccepted]
        exact h.users
    · cases hs
  | build m addr magicCounter =>
    cases hs
    exact h.build m addr magicCounter
  | accept i k kvm =>
    simp only [StepOf, pcapNext] at hs
    split at hs
    · rename_i d hd
      split at hs
      · cases hs
        obtain ⟨hdirty, hpos, hmod⟩ := hok d hd
        refine ⟨h.master, fun j => ?_, h.users⟩
        by_cases hj : j = i
        · subst hj
          simpa using (h.receivers j).accept h.master (List.mem_of_getElem? hd) hdirty hpos hmod kvm k
        · simpa [hj] using h.receivers j
      · cases hs
    · cases hs

theorem systemInv_boot (role : OccRole) : SystemInv (.boot role) where
  master := ⟨rfl, nofun, nofun, nofun⟩
  receivers _ := ⟨rfl, nofun⟩
  users := nofun

end Step

/-! ## Runs -/

/-- In a run whose steps meet the condition, every slave has the caps of the last doorbell it accepted, and every user cap
was within the limits. -/
theorem pcapLaw_of_pcapOk {role : OccRole} {s : PcapSystem} {es : List PcapEvent}
    (h : Run (Guarded PcapOk (StepOf pcapNext)) (.boot role) es s) : PcapLaw s :=
  (h.invariant (P := SystemInv) (fun _ _ _ hs hst => hs.step hst) (systemInv_boot role)).law

/-- The data of a tick that matter for no cap. -/
def tickData : MasterData :=
  { currentTick := 0, apssPwrMeas := .zero, autoSlew := 0, foverride := 0, oversubscriptionEmulation := 0
    ipsFreqRequest := 0, tunableParameterTableExt := .replicate 10 0, softFmin := 0, softFmax := 0, tbRecord := 0
    sysModeFreq := .zero, externalReqState := 0, externalReqMode := 0, masterEventFlags := 0
    slaveEventFlagsAck := fun _ => 0, pbaxId := ⟨0, 0⟩, masterPcapData := .zero, masterPpbFmax := 4000
    apssRecoveryRequested := false, standby := false, pwrReadingTypeApss := true }

/-- The configuration packet, a doorbell, and a slave that accepts it. -/
def configured : List PcapEvent :=
  .config ⟨0x20, 10, 1000, 900, 3000, 2500⟩ :: List.replicate 7 .store ++
    [.build tickData slaveInboxPingCommonAddress 1, .accept 1 0 false]

/-- A user cap and one more doorbell. -/
theorem pcapLaw_of_pcapOk_user : ∃ s, PcapLaw s ∧ (s.receivers 1).slave.normNodePcap = 2000 := by
  have hs : (exec (fun s e => if PcapOk s e then pcapNext s e else none) (.boot .master)
      (configured ++ [.userPcap 2 2000, .store, .store, .store, .store,
        .build tickData slaveInboxPongCommonAddress 2, .accept 1 1 false])).map
      (fun s => (s.receivers 1).slave.normNodePcap) = some 2000 := by decide
  obtain ⟨s, hrun, hnorm⟩ := Option.map_eq_some_iff.1 hs
  exact ⟨s, pcapLaw_of_pcapOk (run_guarded_of_exec hrun), hnorm⟩

/-! ## A slave that misses 256 changes -/

/-- The slave accepts the first doorbell and the one after 256 in-band caps. -/
def missed256 : List PcapEvent :=
  configured ++ List.replicate 256 (.inband 2 2 2000) ++
    [.build tickData slaveInboxPongCommonAddress 2, .accept 1 1 false]

theorem pcapLaw_fails : ∃ s, Run (StepOf pcapNext) (.boot .master) missed256 s ∧ ¬PcapLaw s := by
  have hs : (exec pcapNext (.boot .master) missed256).map
      (fun s => ((s.receivers 1).last.map (·.doorbell.pcap.currentPcap), (s.receivers 1).slave.normNodePcap)) =
      some (some 2000, 3000) := by decide +kernel
  obtain ⟨s, hrun, hvals⟩ := Option.map_eq_some_iff.1 hs
  obtain ⟨hlast, hnorm⟩ := Prod.mk.inj hvals
  refine ⟨s, exec_eq_some_iff.1 hrun, fun hlaw => ?_⟩
  obtain ⟨d, hd, hcur⟩ := Option.map_eq_some_iff.1 hlast
  have hle := (hlaw.slaves 1 d hd).norm.current (by rw [hcur]; decide)
  rw [hcur, hnorm] at hle
  exact absurd hle (by decide)

end Occ.Dcom
