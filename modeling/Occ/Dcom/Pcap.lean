/-
Power caps (`cmdh_fsp_cmds_datacnfg.c`, `cmdh_fsp_cmds.c`, `dcomMasterTx.c`, `amec_data.c`): commands change the
master's caps and count the changes, each doorbell carries the caps and the count, and a slave takes the caps of a
doorbell when its count is not the last one it saw. The commands of the command thread store one field after another,
and the in-band command and the doorbells come in between, as they belong to the real time loop.
-/
import Occ.Dcom.InboxTx
import Mathlib.Logic.Function.Basic

namespace Occ.Dcom

/-! ## The master -/

/-- A store of the command thread; `G_master_pcap_data.pcap_data_count++` is a load and a store. -/
inductive PcapStore
  | softMin (v : BitVec 16)
  | hardMin (v : BitVec 16)
  | maxPcap (v : BitVec 16)
  | oversub (v : BitVec 16)
  | system (v : BitVec 16)
  | current (v : BitVec 16)
  | loadCount
  | storeCount
  | source (v : BitVec 8)
deriving DecidableEq, Repr

/-- A user cap that was accepted, with the limits that it was checked against. -/
structure UserPcap where
  pcap : BitVec 16
  softMin : BitVec 16
  system : BitVec 16
deriving DecidableEq, Repr

/-- `G_master_pcap_data` and what the command thread still has to store, with the count that it has loaded. -/
structure PcapMaster where
  role : OccRole
  data : PcapConfigData
  thread : List PcapStore
  reg : BitVec 8
  -- history: how often the count has changed, whether a cap was stored since, and the user caps
  version : Nat
  dirty : Bool
  accepted : List UserPcap
deriving DecidableEq, Repr

def outOfBand : BitVec 8 := 1
def inBand : BitVec 8 := 2

namespace PcapMaster

variable (s : PcapMaster)

/-- The count gets a value. -/
def setCount (v : BitVec 8) : PcapMaster :=
  if v = s.data.pcapDataCount then s
  else { s with data := { s.data with pcapDataCount := v }, version := s.version + 1, dirty := false }

def store : PcapStore → PcapMaster
  | .softMin v => { s with data := { s.data with softMinPcap := v } }
  | .hardMin v => { s with data := { s.data with hardMinPcap := v }, dirty := true }
  | .maxPcap v => { s with data := { s.data with maxPcap := v } }
  | .oversub v => { s with data := { s.data with oversubPcap := v }, dirty := true }
  | .system v => { s with data := { s.data with systemPcap := v }, dirty := true }
  | .current v => { s with data := { s.data with currentPcap := v }, dirty := true }
  | .loadCount => { s with reg := s.data.pcapDataCount }
  | .storeCount => s.setCount (s.reg + 1)
  | .source v => { s with data := { s.data with source := v } }

/-- The limits for a user cap in `cmdh_set_user_pcap_common`, or the return code. -/
def checkUserPcap (pcap : BitVec 16) : Nat :=
  if s.role = .slave then errlRcInvalidCmd
  else if pcap ≠ 0 ∧ pcap < s.data.softMinPcap then errlRcInvalidData
  else if pcap > s.data.systemPcap ∧ s.data.systemPcap ≠ 0 then errlRcInvalidData
  else errlRcSuccess

/-- The user cap is noted. -/
def accept (pcap : BitVec 16) : PcapMaster :=
  { s with accepted := ⟨pcap, s.data.softMinPcap, s.data.systemPcap⟩ :: s.accepted }

end PcapMaster

/-- The stores of `cmdh_set_user_pcap_common`. -/
def userPcapStores (pcap : BitVec 16) (source : BitVec 8) : List PcapStore :=
  [.current pcap, .loadCount, .storeCount, .source (if pcap = 0 then 0 else source)]

/-- `cmdh_set_user_pcap`, the return code and the command thread's stores. -/
def cmdhSetUserPcap (s : PcapMaster) (dataLength : Nat) (pcap : BitVec 16) : Nat × PcapMaster :=
  if dataLength ≠ 2 then (errlRcInvalidCmdLen, s)
  else if s.checkUserPcap pcap = errlRcSuccess then
    (errlRcSuccess, { s.accept pcap with thread := userPcapStores pcap outOfBand })
  else (s.checkUserPcap pcap, s)

/-- `cmdh_set_pcap_inband`, which no other command interrupts. -/
def cmdhSetPcapInband (s : PcapMaster) (dataLength maxRspLength : Nat) (pcap : BitVec 16) : Nat × PcapMaster :=
  if dataLength ≠ 2 then (errlRcInvalidCmdLen, s)
  else if 2 > maxRspLength then (errlRcInternalFail, s)
  else if s.checkUserPcap pcap = errlRcSuccess then
    let data := { s.data with currentPcap := pcap, source := if pcap = 0 then 0 else inBand }
    (errlRcSuccess, { s.accept pcap with data := data }.setCount (s.data.pcapDataCount + 1))
  else (s.checkUserPcap pcap, s)

/-- `cmdh_pcap_config_t`: version, length and the caps. -/
structure PcapConfig where
  version : BitVec 8
  dataLength : Nat
  softMinPcap : BitVec 16
  hardMinPcap : BitVec 16
  sysMaxPcap : BitVec 16
  qpdPcap : BitVec 16
deriving DecidableEq, Repr

def pcapConfigLength : Nat := 10

/-- `data_store_power_cap`: whether the packet is valid, and the command thread's stores. -/
def dataStorePowerCap (s : PcapMaster) (c : PcapConfig) : Bool × PcapMaster :=
  if s.role = .master ∧ c.version = 0x20 ∧ c.dataLength = pcapConfigLength then
    (true, { s with thread := [.softMin c.softMinPcap, .hardMin c.hardMinPcap, .maxPcap c.sysMaxPcap, .oversub c.qpdPcap,
      .system c.sysMaxPcap, .loadCount, .storeCount] })
  else (false, s)

/-! ## The slaves -/

/-- A slave's caps: `L_pcap_data_count`, `G_sysConfigData.pcap` and what `amec_data_write_pcap` sets. -/
structure PcapSlave where
  pcapDataCount : BitVec 8
  pcap : PcapConfigData
  normNodePcap : BitVec 16
  ovsNodePcap : BitVec 16
  ppbFmax : BitVec 16
  -- `DATA_MASK_PCAP_PRESENT`, and how often `G_dcomThreadWakeupSem` was posted
  pcapPresent : Bool
  wakeups : Nat
deriving DecidableEq, Repr

/-- 0 means that there is no cap. -/
def capOrMax (v : BitVec 16) : BitVec 16 := if v = 0 then 0xFFFF else v

/-- `amec_data_write_pcap`. -/
def amecDataWritePcap (kvm : Bool) (d : SlvInboxDoorbell) (s : PcapSlave) : PcapSlave :=
  let s := { s with ppbFmax := d.ppbFmax }
  if s.pcapDataCount ≠ d.pcap.pcapDataCount then
    let customer := capOrMax d.pcap.currentPcap
    let system := capOrMax d.pcap.systemPcap
    { s with
      pcapDataCount := d.pcap.pcapDataCount, pcap := d.pcap
      normNodePcap := if customer < system then customer else system
      ovsNodePcap := if d.pcap.oversubPcap ≠ 0 then d.pcap.oversubPcap else d.pcap.hardMinPcap
      pcapPresent := true, wakeups := if kvm then s.wakeups + 1 else s.wakeups }
  else s

/-! ## The system -/

/-- A doorbell as it was built, with the number of changes of the count by then and whether a cap was stored since. -/
structure SentDoorbell where
  doorbell : SlvInboxDoorbell
  version : Nat
  dirty : Bool
deriving DecidableEq, Repr

/-- A slave with the doorbells that it can still receive and, for the history, the last one it accepted. -/
structure PcapReceiver where
  slave : PcapSlave
  next : Nat
  last : Option SentDoorbell
deriving DecidableEq, Repr

structure PcapSystem where
  master : PcapMaster
  sent : List SentDoorbell
  receivers : OccId → PcapReceiver

inductive PcapEvent
  /-- commands: the configuration packet, the out-of-band and the in-band user cap -/
  | config (c : PcapConfig)
  | userPcap (dataLength : Nat) (pcap : BitVec 16)
  | inband (dataLength maxRspLength : Nat) (pcap : BitVec 16)
  /-- the command thread's next store -/
  | store
  /-- a doorbell is built -/
  | build (m : MasterData) (addr : BitVec 32) (magicCounter : BitVec 8)
  /-- a slave accepts a doorbell; those before it are lost to it -/
  | accept (i : OccId) (k : Nat) (kvm : Bool)

def PcapSystem.build (s : PcapSystem) (m : MasterData) (addr : BitVec 32) (magicCounter : BitVec 8) : PcapSystem :=
  let d := buildDoorbell { m with masterPcapData := s.master.data } addr magicCounter
  { s with sent := s.sent ++ [⟨d, s.master.version, s.master.dirty⟩] }

/-- The part of `task_dcom_rx_slv_inbox` for a doorbell that was received in full. -/
def PcapReceiver.accept (r : PcapReceiver) (kvm : Bool) (k : Nat) (d : SentDoorbell) : PcapReceiver :=
  { slave := amecDataWritePcap kvm d.doorbell r.slave, next := k + 1, last := some d }

def pcapNext (s : PcapSystem) : PcapEvent → Option PcapSystem
  | .config c => if s.master.thread = [] then some { s with master := (dataStorePowerCap s.master c).2 } else none
  | .userPcap len pcap =>
    if s.master.thread = [] then some { s with master := (cmdhSetUserPcap s.master len pcap).2 } else none
  | .inband len maxRsp pcap => some { s with master := (cmdhSetPcapInband s.master len maxRsp pcap).2 }
  | .store =>
    match s.master.thread with
    | st :: rest => some { s with master := { s.master.store st with thread := rest } }
    | [] => none
  | .build m addr magicCounter => some (s.build m addr magicCounter)
  | .accept i k kvm =>
    match s.sent[k]? with
    | some d =>
      if (s.receivers i).next ≤ k then
        some { s with receivers := Function.update s.receivers i ((s.receivers i).accept kvm k d) }
      else none
    | none => none

def PcapSystem.boot (role : OccRole) : PcapSystem :=
  { master := ⟨role, .zero, [], 0, 0, false, []⟩, sent := []
    receivers := fun _ => ⟨⟨0, .zero, 0, 0, 0, false, 0⟩, 0, none⟩ }

end Occ.Dcom
