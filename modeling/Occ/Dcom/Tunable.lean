/-
Tunable parameters (`cmdh_tunable_parms.c`, `dcom.c`, `amec_part.c`): a command stores parameters on the master and asks
for an overwrite, the next inboxes that are built carry the request, and the slaves apply what they receive. The tasks of
the master and the slaves, the copies and the commands are interleaved in any way; a command stores its parameters one
after another. An inbox is copied in one piece. The cores' utilisation averages, which start over, are left out.
-/
import Occ.Dcom.OutboxTx
import Occ.Lib.Literals

namespace Occ.Dcom

open Publish Transition

attribute [local instance] neZero_thirtyTwo

/-! ## The master's table -/

/-- An entry of `G_mst_tunable_parameter_table` with its extension. -/
structure TunableParameter where
  value : BitVec 16
  defValue : BitVec 16
  multiplier : BitVec 16
  adjValue : BitVec 16
deriving DecidableEq, Repr

abbrev TunableTable := Vector TunableParameter 10

theorem tunable_lt (i : Fin 10) : i.val < 10 := i.isLt

/-- A parameter of a `cmdh_tunable_parms_write`; one with an invalid id is passed over. -/
def TunableTable.store (t : TunableTable) (id : BitVec 8) (value : BitVec 16) : TunableTable :=
  if h : 0 < id.toNat ∧ id.toNat ≤ 10 then
    let p := t[id.toNat - 1]
    t.set (id.toNat - 1) { p with value := value, adjValue := value * p.multiplier }
  else t

/-- A parameter in the loop of `cmdh_tunable_parms_restore`. -/
def TunableTable.restoreDefault (t : TunableTable) (i : Fin 10) : TunableTable :=
  let p := getElem t i (tunable_lt i)
  t.set i { p with value := p.defValue, adjValue := p.defValue * p.multiplier } (tunable_lt i)

def TunableTable.adjValues (t : TunableTable) : Vector (BitVec 16) 10 := t.map (·.adjValue)

/-! ## The slaves -/

/-- `dpsalg` of a core group. -/
structure DpsAlg where
  alphaUp : BitVec 16
  alphaDown : BitVec 16
  sampleCountUtil : BitVec 16
  stepUp : BitVec 16
  stepDown : BitVec 16
  epsilonPerc : BitVec 16
  tlutil : BitVec 16
  type : BitVec 8
deriving DecidableEq, Repr

/-- `amec_part_t`; it has as many cores as its list. -/
structure AmecPart where
  valid : Bool
  coreList : List Nat
  dpsalg : DpsAlg
deriving DecidableEq, Repr

/-- What the tunable parameters set; the algorithm cannot be selected. -/
def TunableParams.dpsalg (p : TunableParams) : DpsAlg :=
  { alphaUp := p.alphaUp, alphaDown := p.alphaDown, sampleCountUtil := p.sampleCountUtil, stepUp := p.stepUp
    stepDown := p.stepDown, epsilonPerc := p.epsilonPerc, tlutil := p.tlutil, type := 41 }

/-- `AMEC_part_overwrite_dps_parameters`. -/
def amecPartOverwriteDpsParameters (rx : SlvInbox) (parts : List AmecPart) : List AmecPart :=
  parts.map fun part => if part.valid && !part.coreList.isEmpty then { part with dpsalg := rx.tunables.dpsalg } else part

/-- A slave: `G_dcom_slv_inbox_rx` and what it sets. -/
structure Slave where
  rx : SlvInbox
  parts : List AmecPart
  slvDpsParamOverwrite : Bool
  -- `WOF_RC_USER_DISABLED_WOF` in `wof_disabled`
  userDisabledWof : Bool
  softFmin : BitVec 16
  softFmax : BitVec 16
  masterEventFlagsAck : BitVec 8
  slaveEventFlags : BitVec 32
  -- history: how many of the announcements it has dealt with, and whether it has parsed the last inbox
  received : Nat
  parsed : Bool

/-- `task_dcom_parse_occfwmsg` from the tunable parameters on. -/
def taskDcomParseOccfwmsg (s : Slave) : Slave :=
  let rx := s.rx
  let s :=
    if rx.tunableParamOverwrite ≠ 0 then
      { s with
        parts := amecPartOverwriteDpsParameters rx s.parts
        -- 2 uses the defaults for all parameters
        slvDpsParamOverwrite := rx.tunableParamOverwrite == 1
        userDisabledWof := rx.tunables.wofEnable == 0 }
    else s
  { s with
    softFmin := rx.softFmin, softFmax := rx.softFmax, masterEventFlagsAck := rx.occFwMailbox[(2 : Fin 32)]
    slaveEventFlags := s.slaveEventFlags &&& ~~~(rx.occFwMailbox[(3 : Fin 32)].setWidth 32), parsed := true }

/-! ## The system -/

/-- What became of the requests; none of it is read. -/
structure TunableWatch where
  /-- the requests accepted; those when the flag was last cleared; those that the job carries; and those in an inbox
  that was announced -/
  accepted : Nat
  cleared : Nat
  carries : Nat
  delivered : Nat
  /-- the last request, and the last one that was built into an inbox, with its parameters -/
  last : Option (BitVec 8)
  collected : Option (BitVec 8 × TunableParams)
  /-- a parameter was stored since then -/
  stored : Bool

structure Tunables where
  tx : InboxTx
  table : TunableTable
  slaves : OccId → Slave
  watch : TunableWatch

inductive TunableEvent
  /-- a parameter is stored by a command, or restored -/
  | store (id : BitVec 8) (value : BitVec 16)
  | restoreDefault (i : Fin 10)
  /-- the end of `cmdh_tunable_parms_write` and of `cmdh_tunable_parms_restore` -/
  | overwrite
  | restore
  | task (m : MasterData) (wait : ApssWait) (o : Scheduling) (safe : Bool)
  | engine (e : EngineEvent)
  /-- a slave receives the next announced inbox, as the copy had read it; or a doorbell that is not complete -/
  | receive (i : OccId) (k : Nat)
  | miss (i : OccId)
  | parse (i : OccId)

namespace Tunables

variable (s : Tunables)

abbrev board : Board (OccId → SlvInbox) SlvInboxDoorbell (BitVec 32) := s.tx.publisher.board

/-- `G_mst_tunable_parameter_overwrite` is set. -/
def request (value : BitVec 8) : Tunables :=
  { s with
    tx := { s.tx with tunableParameterOverwrite := value }
    watch := { s.watch with accepted := s.watch.accepted + 1, last := some value } }

/-- The requests that the job carries after a call of the master's task: all, if the task has scheduled it with one. -/
def taskCarries (tx : InboxTx) : Nat :=
  if s.board.scheduled < tx.publisher.board.scheduled then
    if s.tx.tunableParameterOverwrite = 0 then 0 else s.watch.accepted
  else s.watch.carries

/-- The history over a call of the master's task. -/
def watchTask (m : MasterData) (wait : ApssWait) (tx : InboxTx) : TunableWatch :=
  if builds m wait ∧ s.tx.tunableParameterOverwrite ≠ 0 then
    { s.watch with
      cleared := s.watch.accepted, carries := s.taskCarries tx
      collected := some (s.tx.tunableParameterOverwrite, tunableParams s.table.adjValues), stored := false }
  else { s.watch with carries := s.taskCarries tx }

/-- The tick's data with the table. -/
def masterData (m : MasterData) : MasterData := { m with tunableParameterTableExt := s.table.adjValues }

def task (m : MasterData) (wait : ApssWait) (o : Scheduling) (safe : Bool) : Tunables :=
  { s with
    tx := taskDcomTxSlvInbox (s.masterData m) wait o safe s.tx
    watch := s.watchTask m wait (taskDcomTxSlvInbox (s.masterData m) wait o safe s.tx) }

/-- The history over a step of the engine. -/
def watchEngine : EngineEvent → TunableWatch
  | .finish false 16 => { s.watch with delivered := max s.watch.delivered s.watch.carries, carries := 0 }
  | .finish _ _ => { s.watch with carries := 0 }
  | _ => s.watch

/-- The announcement that a slave has to deal with next. -/
def nextNotice (i : OccId) : Option (Notice (OccId → SlvInbox) SlvInboxDoorbell (BitVec 32)) :=
  s.board.notices.reverse[(s.slaves i).received]?

def setSlave (i : OccId) (sl : Slave) : Tunables := { s with slaves := Function.update s.slaves i sl }

def receive (i : OccId) (inbox : SlvInbox) : Tunables :=
  s.setSlave i { s.slaves i with rx := inbox, received := (s.slaves i).received + 1, parsed := false }

def miss (i : OccId) : Tunables := s.setSlave i { s.slaves i with received := (s.slaves i).received + 1 }

end Tunables

def tunableNext (s : Tunables) : TunableEvent → Option Tunables
  | .store id value => some { s with table := s.table.store id value, watch.stored := true }
  | .restoreDefault i => some { s with table := s.table.restoreDefault i, watch.stored := true }
  | .overwrite => some (s.request 1)
  | .restore => some (s.request 2)
  | .task m wait o safe => some (s.task m wait o safe)
  | .engine e => (s.tx.publisher.engine 16 e).map fun p =>
      { s with tx := { s.tx with publisher := p }, watch := s.watchEngine e }
  | .receive i k =>
    match s.nextNotice i with
    | some n => if n.parts = 16 then (n.job.read[k]?).map fun b => s.receive i (b i) else none
    | none => none
  | .miss i =>
    match s.nextNotice i with
    | some n => if n.parts < 16 then some (s.miss i) else none
    | none => none
  | .parse i => some (s.setSlave i (taskDcomParseOccfwmsg (s.slaves i)))

/-! ## Boot -/

/-- The default values and multipliers, and the values that the master starts with. -/
def TunableTable.boot : TunableTable :=
  #v[⟨980, 980, 10, 9800⟩, ⟨980, 980, 10, 9800⟩, ⟨16, 16, 1, 16⟩, ⟨8, 8, 1, 8⟩, ⟨8, 8, 1, 8⟩, ⟨18, 18, 100, 1800⟩,
    ⟨980, 980, 10, 980⟩, ⟨0, 0, 1, 0⟩, ⟨10, 10, 1, 10⟩, ⟨1, 1, 1, 1⟩]

/-- A slave with its core groups. -/
def Slave.boot (parts : List AmecPart) : Slave :=
  { rx := .zero, parts := parts, slvDpsParamOverwrite := false, userDisabledWof := false, softFmin := 0, softFmax := 0
    masterEventFlagsAck := 0, slaveEventFlags := 0, received := 0, parsed := true }

def Tunables.boot (parts : OccId → List AmecPart) : Tunables :=
  { tx := .boot, table := .boot, slaves := fun i => .boot (parts i)
    watch := ⟨0, 0, 0, 0, none, none, false⟩ }

end Occ.Dcom
