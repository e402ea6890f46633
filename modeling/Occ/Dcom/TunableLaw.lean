/-
The delivery of tunable parameters: the request is cleared when it is built into the inboxes, before they are copied.
It is announced before that only if no inbox is built with it; and what is built with it reaches the slaves as long
as its copy is scheduled, completes and is announced before the next build.
-/
import Occ.Dcom.Tunable
import Occ.Lib.Literals

namespace Occ.Dcom

open Publish Transition

attribute [local instance] neZero_eight

/-! ## The law -/

/-- Every request whose flag was cleared has been announced to the slaves. -/
def Tunables.Ordered (s : Tunables) : Prop := s.watch.cleared ≤ s.watch.delivered

/-- The slave has the flags and the parameters of a request. -/
structure Slave.Has (sl : Slave) (value : BitVec 8) (p : TunableParams) : Prop where
  overwrite : sl.slvDpsParamOverwrite = (value == 1)
  wof : sl.userDisabledWof = (p.wofEnable == 0)
  parts : ∀ part ∈ sl.parts, part.valid = true → part.coreList ≠ [] → part.dpsalg = p.dpsalg

/-- A slave that has received and parsed every announced inbox has the last request, once it is cleared and no copy is
queued or in flight; its parameters are the master's unless some were stored since. -/
def Tunables.Delivered (s : Tunables) : Prop :=
  ∀ i v, s.watch.last = some v → s.tx.tunableParameterOverwrite = 0 → s.tx.publisher.free = true →
    (s.slaves i).received = s.board.notices.length → (s.slaves i).parsed = true →
      ∃ p, (s.slaves i).Has v p ∧ (s.watch.stored = false → p = tunableParams s.table.adjValues)

/-- What the law asks for after a step. -/
def OrderedAfter (s : Tunables) (e : TunableEvent) : Prop := ∀ t, tunableNext s e = some t → t.Ordered

/-- No inbox is built with a request. -/
def NoCollect (s : Tunables) : TunableEvent → Prop
  | .task m wait _ _ => builds m wait → s.tx.tunableParameterOverwrite = 0
  | _ => True

/-- The copy that is queued or in flight has a request in an inbox. -/
def Tunables.carriesRequest (s : Tunables) : Bool :=
  match s.board.job with
  | some j => decide (∃ i, (j.buffer i).tunableParamOverwrite ≠ 0)
  | none => false

/-- A copy that ends completes, and its doorbell is sent in full. -/
def EngineEvent.endsWell : EngineEvent → Bool
  | .finish failed packets => !failed && packets == 16
  | _ => true

/-- The inboxes are built only while no copy is queued or in flight, and with a request their copy is scheduled, completes
and is announced in full; no failed copy sends a doorbell; a slave has parsed an inbox before it receives the next. -/
def DeliverOk (s : Tunables) : TunableEvent → Prop
  | .task m wait o _ =>
    builds m wait → s.tx.publisher.free = true ∧ (s.tx.tunableParameterOverwrite ≠ 0 → o = .queued ∨ o = .started)
  | .engine e => e.silentFailure = true ∧ (s.carriesRequest = true → e.endsWell = true)
  | .receive i _ => (s.slaves i).parsed = true
  | _ => True

/-! ## Counting -/

structure CountInv (s : Tunables) : Prop where
  delivered : s.watch.delivered ≤ s.watch.cleared
  carries : s.watch.carries ≤ s.watch.cleared
  cleared : s.watch.cleared ≤ s.watch.accepted
  pending : s.tx.tunableParameterOverwrite ≠ 0 → s.watch.cleared < s.watch.accepted

section Count

variable {s t : Tunables} {e : TunableEvent} {m : MasterData} {wait : ApssWait} {o : Scheduling} {safe : Bool}

theorem taskCarries_le (h : CountInv s) (tx : InboxTx) : s.taskCarries tx ≤ s.watch.accepted := by
  have hcarries := h.carries.trans h.cleared
  unfold Tunables.taskCarries
  split
  · split
    · exact Nat.zero_le _
    · exact le_rfl
  · exact hcarries

theorem taskCarries_le_cleared (h : CountInv s) (tx : InboxTx)
    (hno : s.tx.tunableParameterOverwrite = 0 ∨ tx.publisher = s.tx.publisher) : s.taskCarries tx ≤ s.watch.cleared := by
  unfold Tunables.taskCarries
  split
  · rename_i hlt
    rcases hno with hf | hp
    · rw [if_pos hf]
      exact Nat.zero_le _
    · rw [hp] at hlt
      exact absurd hlt (lt_irrefl _)
  · exact h.carries

theorem task_watch :
    (builds m wait ∧ s.tx.tunableParameterOverwrite ≠ 0 ∧ (s.task m wait o safe).tx.tunableParameterOverwrite = 0 ∧
        (s.task m wait o safe).watch =
          { s.watch with
            cleared := s.watch.accepted, carries := s.taskCarries (s.task m wait o safe).tx
            collected := some (s.tx.tunableParameterOverwrite, tunableParams s.table.adjValues), stored := false }) ∨
      ((builds m wait → s.tx.tunableParameterOverwrite = 0) ∧
        (s.task m wait o safe).tx.tunableParameterOverwrite = s.tx.tunableParameterOverwrite ∧
        (s.tx.tunableParameterOverwrite = 0 ∨ (s.task m wait o safe).tx.publisher = s.tx.publisher) ∧
        (s.task m wait o safe).watch = { s.watch with carries := s.taskCarries (s.task m wait o safe).tx }) := by
  rcases @task_cases s.tx (s.masterData m) wait o safe with
    ⟨hb, hsent⟩ | ⟨hb, hpub, hflag⟩
  · by_cases hf : s.tx.tunableParameterOverwrite = 0
    · exact .inr ⟨fun _ => hf, hsent.overwrite.trans hf.symm, .inl hf, if_neg fun hc => hc.2 hf⟩
    · exact .inl ⟨hb, hf, hsent.overwrite, if_pos ⟨hb, hf⟩⟩
  · exact .inr ⟨fun hb' => absurd hb' hb, hflag, .inr hpub, if_neg fun hc => hb hc.1⟩

theorem watchEngine_counts (h : CountInv s) (e : EngineEvent) :
    (s.watchEngine e).cleared = s.watch.cleared ∧ (s.watchEngine e).accepted = s.watch.accepted ∧
      (s.watchEngine e).carries ≤ s.watch.cleared ∧ s.watch.delivered ≤ (s.watchEngine e).delivered ∧
      (s.watchEngine e).delivered ≤ s.watch.cleared := by
  have hc := h.carries
  have hd := h.delivered
  unfold Tunables.watchEngine
  split <;> simp_all

theorem CountInv.step (h : CountInv s) (hs : StepOf tunableNext s e t) : CountInv t := by
  have hcleared := h.cleared
  cases e with
  | store id value => cases hs; exact ⟨h.delivered, h.carries, h.cleared, h.pending⟩
  | restoreDefault i => cases hs; exact ⟨h.delivered, h.carries, h.cleared, h.pending⟩
  | overwrite => cases hs; exact ⟨h.delivered, h.carries, Nat.le_succ_of_le h.cleared, fun _ => Nat.lt_succ_of_le h.cleared⟩
  | restore => cases hs; exact ⟨h.delivered, h.carries, Nat.le_succ_of_le h.cleared, fun _ => Nat.lt_succ_of_le h.cleared⟩
  | task m wait o safe =>
    cases hs
    rcases @task_watch s m wait o safe with
      ⟨_, _, hflag, hw⟩ | ⟨_, hflag, hno, hw⟩
    · constructor <;> rw [hw]
      · exact h.delivered.trans hcleared
      · exact taskCarries_le h _
      · exact fun hne => absurd hflag hne
    · constructor <;> rw [hw]
      · exact h.delivered
      · exact taskCarries_le_cleared h _ hno
      · exact hcleared
      · rw [hflag]
        exact h.pending
  | engine e =>
    obtain ⟨p, _, rfl⟩ := Option.map_eq_some_iff.1 hs
    obtain ⟨hcl, hac, hca, _, hde⟩ := watchEngine_counts h e
    constructor
    · exact hcl ▸ hde
    · exact hcl ▸ hca
    · show (s.watchEngine e).cleared ≤ (s.watchEngine e).accepted
      rw [hcl, hac]
      exact hcleared
    · show _ → (s.watchEngine e).cleared < (s.watchEngine e).accepted
      rw [hcl, hac]
      exact h.pending
  | receive i k =>
    simp only [StepOf, tunableNext] at hs
    split at hs
    · split at hs
      · obtain ⟨b, _, rfl⟩ := Option.map_eq_some_iff.1 hs
        exact ⟨h.delivered, h.carries, h.cleared, h.pending⟩
      · cases hs
    · cases hs
  | miss i =>
    simp only [StepOf, tunableNext] at hs
    split at hs
    · split at hs
      · cases hs
        exact ⟨h.delivered, h.carries, h.cleared, h.pending⟩
      · cases hs
    · cases hs
  | parse i => cases hs; exact ⟨h.delivered, h.carries, h.cleared, h.pending⟩

/-- A step keeps the order exactly if it builds no inbox with a request. -/
theorem orderedAfter_iff (h : CountInv s) (ho : s.Ordered) (hs : StepOf tunableNext s e t) :
    OrderedAfter s e ↔ NoCollect s e := by
  have hiff : OrderedAfter s e ↔ t.Ordered :=
    ⟨fun h => h t hs, fun ht u hu => Option.some.inj (hs.symm.trans hu) ▸ ht⟩
  rw [hiff]
  cases e with
  | task m wait o safe =>
    cases hs
    rcases @task_watch s m wait o safe with
      ⟨hb, hf, _, hw⟩ | ⟨hno, _, _, hw⟩
    · refine iff_of_false (fun ht => ?_) fun hn => hf (hn hb)
      unfold Tunables.Ordered at ht
      rw [hw] at ht
      exact absurd (ht.trans h.delivered) (h.pending hf).not_ge
    · refine iff_of_true ?_ hno
      unfold Tunables.Ordered
      rw [hw]
      exact ho
  | engine e =>
    refine iff_of_true ?_ trivial
    obtain ⟨p, _, rfl⟩ := Option.map_eq_some_iff.1 hs
    obtain ⟨hcl, _, _, hde, _⟩ := watchEngine_counts h e
    show (s.watchEngine e).cleared ≤ (s.watchEngine e).delivered
    rw [hcl]
    exact ho.trans hde
  | store id value => cases hs; exact iff_of_true ho trivial
  | restoreDefault i => cases hs; exact iff_of_true ho trivial
  | overwrite => cases hs; exact iff_of_true ho trivial
  | restore => cases hs; exact iff_of_true ho trivial
  | receive i k =>
    refine iff_of_true ?_ trivial
    simp only [StepOf, tunableNext] at hs
    split at hs
    · split at hs
      · obtain ⟨b, _, rfl⟩ := Option.map_eq_some_iff.1 hs
        exact ho
      · cases hs
    · cases hs
  | miss i =>
    refine iff_of_true ?_ trivial
    simp only [StepOf, tunableNext] at hs
    split at hs
    · split at hs
      · cases hs
        exact ho
      · cases hs
    · cases hs
  | parse i => cases hs; exact iff_of_true ho trivial

theorem countInv_boot (parts : OccId → List AmecPart) : CountInv (.boot parts) :=
  ⟨Nat.zero_le _, Nat.zero_le _, Nat.zero_le _, fun h => absurd rfl h⟩

theorem run_ordered_iff {parts : OccId → List AmecPart} {es : List TunableEvent} :
    Run (Guarded OrderedAfter (StepOf tunableNext)) (.boot parts) es t ↔
      Run (Guarded NoCollect (StepOf tunableNext)) (.boot parts) es t := by
  have hboot : CountInv (.boot parts) ∧ (Tunables.boot parts).Ordered := ⟨countInv_boot parts, Nat.zero_le _⟩
  have hall (es : List TunableEvent) : es.filter (fun _ => true) = es := List.filter_true es
  constructor
  · intro h
    have := @Run.project _ _ _ _ _ _ _ (Guarded NoCollect (StepOf tunableNext)) (fun s => CountInv s ∧ s.Ordered) id
      (fun _ => true) (fun s e t hp hs => ⟨hp.1.step hs.2, hs.1 t hs.2⟩)
      (fun s e t hp hs _ => ⟨(orderedAfter_iff hp.1 hp.2 hs.2).1 hs.1, hs.2⟩) (fun _ _ _ _ _ hk => Bool.noConfusion hk) h hboot
    rwa [hall] at this
  · intro h
    have := @Run.project _ _ _ _ _ _ _ (Guarded OrderedAfter (StepOf tunableNext)) (fun s => CountInv s ∧ s.Ordered) id
      (fun _ => true)
      (fun s e t hp hs => ⟨hp.1.step hs.2, (orderedAfter_iff hp.1 hp.2 hs.2).2 hs.1 t hs.2⟩)
      (fun s e t hp hs _ => ⟨(orderedAfter_iff hp.1 hp.2 hs.2).2 hs.1, hs.2⟩) (fun _ _ _ _ _ hk => Bool.noConfusion hk) h hboot
    rwa [hall] at this

end Count

/-! ## What a slave has -/

/-- The last of the inboxes of an OCC that carries a request, the latest inboxes first. -/
def carried (i : OccId) (l : List (OccId → SlvInbox)) : Option SlvInbox :=
  (l.map (· i)).find? fun b => b.tunableParamOverwrite != 0

section Slave

variable {i : OccId} {b : OccId → SlvInbox} {l : List (OccId → SlvInbox)} {sl : Slave}

theorem carried_cons_of_request (h : (b i).tunableParamOverwrite ≠ 0) : carried i (b :: l) = some (b i) := by
  have h : (b i).tunableParamOverwrite ≠ 0#8 := h
  simp [carried, h]

theorem carried_cons_of_none (h : (b i).tunableParamOverwrite = 0) : carried i (b :: l) = carried i l := by
  simp [carried, h]

/-- The slave has what an inbox carried. -/
def Slave.Reflects (sl : Slave) (o : Option SlvInbox) : Prop :=
  ∀ b, o = some b → sl.Has b.tunableParamOverwrite b.tunables

theorem parse_has (h : sl.rx.tunableParamOverwrite ≠ 0) :
    (taskDcomParseOccfwmsg sl).Has sl.rx.tunableParamOverwrite sl.rx.tunables := by
  unfold taskDcomParseOccfwmsg
  simp only [if_pos h]
  refine ⟨rfl, rfl, fun part hpart hvalid hcores => ?_⟩
  obtain ⟨q, _, rfl⟩ := List.mem_map.1 hpart
  by_cases hq : (q.valid && !q.coreList.isEmpty) = true
  · rw [if_pos hq]
  · rw [if_neg hq] at hvalid hcores
    simp [hvalid, hcores] at hq

theorem parse_reflects {o : Option SlvInbox} (h : sl.rx.tunableParamOverwrite = 0) (hr : sl.Reflects o) :
    (taskDcomParseOccfwmsg sl).Reflects o := by
  unfold taskDcomParseOccfwmsg
  simp only [h, ne_eq, not_true_eq_false, if_false]
  exact fun b hb => ⟨(hr b hb).overwrite, (hr b hb).wof, (hr b hb).parts⟩

/-- What a slave has after the announcements it has dealt with: what the last one with a request carried, or that is still
to be parsed. -/
structure Slave.Follows (sl : Slave) (i : OccId) (l : List (OccId → SlvInbox)) : Prop where
  rx : sl.rx.tunableParamOverwrite ≠ 0 → carried i l = some sl.rx
  none : sl.rx.tunableParamOverwrite = 0 → sl.Reflects (carried i l)
  parsed : sl.parsed = true → sl.Reflects (carried i l)

theorem Slave.Follows.parse (h : sl.Follows i l) : (taskDcomParseOccfwmsg sl).Follows i l := by
  have hrx : (taskDcomParseOccfwmsg sl).rx = sl.rx := by
    unfold taskDcomParseOccfwmsg
    dsimp only
    split <;> rfl
  have hr : (taskDcomParseOccfwmsg sl).Reflects (carried i l) := by
    by_cases hz : sl.rx.tunableParamOverwrite = 0
    · exact parse_reflects hz (h.none hz)
    · rw [h.rx hz]
      rintro b ⟨⟩
      exact parse_has hz
  exact ⟨fun hne => by rw [hrx] at hne ⊢; exact h.rx hne, fun _ => hr, fun _ => hr⟩

theorem Slave.Follows.receive (h : sl.Follows i l) (hparsed : sl.parsed = true) (r : Nat) :
    ({ sl with rx := b i, received := r, parsed := false } : Slave).Follows i (b :: l) where
  rx hne := carried_cons_of_request hne
  none hz := by
    rw [carried_cons_of_none hz]
    exact fun c hc => ⟨(h.parsed hparsed c hc).overwrite, (h.parsed hparsed c hc).wof, (h.parsed hparsed c hc).parts⟩
  parsed := nofun

theorem Slave.Follows.miss (h : sl.Follows i l) (hz : (b i).tunableParamOverwrite = 0) (r : Nat) :
    ({ sl with received := r } : Slave).Follows i (b :: l) := by
  refine ⟨?_, ?_, ?_⟩ <;> rw [carried_cons_of_none hz]
  · exact h.rx
  · exact fun hx c hc => ⟨(h.none hx c hc).overwrite, (h.none hx c hc).wof, (h.none hx c hc).parts⟩
  · exact fun hx c hc => ⟨(h.parsed hx c hc).overwrite, (h.parsed hx c hc).wof, (h.parsed hx c hc).parts⟩

end Slave

/-! ## Invariant -/

/-- The inboxes that were scheduled, of the announcements alone or with the copy that is under way. -/
def announcedInboxes (b : Board (OccId → SlvInbox) SlvInboxDoorbell (BitVec 32)) : List (OccId → SlvInbox) :=
  b.notices.map (·.job.buffer)
def scheduledInboxes (b : Board (OccId → SlvInbox) SlvInboxDoorbell (BitVec 32)) : List (OccId → SlvInbox) :=
  b.job.toList.map (·.buffer) ++ announcedInboxes b

/-- The last inboxes that carry a request are those that were built with the last one. -/
structure Collected (s : Tunables) : Prop where
  pending : s.tx.tunableParameterOverwrite ≠ 0 → s.watch.last = some s.tx.tunableParameterOverwrite
  last : s.tx.tunableParameterOverwrite = 0 → s.watch.last = s.watch.collected.map (·.1)
  table : s.watch.stored = false → ∀ v p, s.watch.collected = some (v, p) → p = tunableParams s.table.adjValues
  carried : ∀ i, (carried i (scheduledInboxes s.board)).map (fun b => (b.tunableParamOverwrite, b.tunables)) =
    s.watch.collected
  /-- An incomplete doorbell was not for a request. -/
  complete : ∀ n ∈ s.board.notices, n.parts = 16 ∨ ∀ i, (n.job.buffer i).tunableParamOverwrite = 0

structure DeliverInv (s : Tunables) : Prop where
  publish : PublishInv SlvInboxDoorbell.addrSlvInboxBuffer0 s.tx.publisher
  collected : Collected s
  received : ∀ i, (s.slaves i).received ≤ s.board.notices.length
  slaves : ∀ i, (s.slaves i).Follows i
    ((announcedInboxes s.board).drop (s.board.notices.length - (s.slaves i).received))

theorem DeliverInv.delivered {s : Tunables} (h : DeliverInv s) : s.Delivered := by
  intro i v hlast hflag hfree hall hparsed
  have hjob : s.board.job = none := Publisher.free_iff.1 hfree
  have hf := (h.slaves i).parsed hparsed
  rw [hall, Nat.sub_self, List.drop_zero] at hf
  have hc := h.collected.carried i
  simp only [scheduledInboxes, hjob, Option.toList_none, List.map_nil, List.nil_append] at hc
  have hcl := h.collected.last hflag
  rw [hlast] at hcl
  obtain ⟨⟨v', p⟩, hcol, hv⟩ := Option.map_eq_some_iff.1 hcl.symm
  rw [hcol] at hc
  obtain ⟨b, hb, he⟩ := Option.map_eq_some_iff.1 hc
  obtain ⟨rfl, rfl⟩ := Prod.mk.inj he
  cases hv
  exact ⟨_, hf b hb, fun hst => h.collected.table hst _ _ hcol⟩

/-! ## Steps -/

section Step

variable {s t : Tunables} {m : MasterData} {wait : ApssWait} {o : Scheduling} {safe : Bool}

theorem drop_announced {n : Notice (OccId → SlvInbox) SlvInboxDoorbell (BitVec 32)}
    {b c : Board (OccId → SlvInbox) SlvInboxDoorbell (BitVec 32)} (h : c.notices = n :: b.notices) {r : Nat}
    (hr : r ≤ b.notices.length) :
    (announcedInboxes c).drop (c.notices.length - r) = (announcedInboxes b).drop (b.notices.length - r) := by
  have hlen : c.notices.length - r = b.notices.length - r + 1 := by rw [h, List.length_cons]; omega
  rw [hlen, announcedInboxes, h, List.map_cons, List.drop_succ_cons]
  rfl

theorem nextNotice_drop {i : OccId} {n : Notice (OccId → SlvInbox) SlvInboxDoorbell (BitVec 32)}
    (h : s.nextNotice i = some n) :
    n ∈ s.board.notices ∧ (s.slaves i).received < s.board.notices.length ∧
      (announcedInboxes s.board).drop (s.board.notices.length - ((s.slaves i).received + 1)) =
        n.job.buffer :: (announcedInboxes s.board).drop (s.board.notices.length - (s.slaves i).received) := by
  unfold Tunables.nextNotice at h
  obtain ⟨hlt, hn⟩ := List.getElem?_eq_some_iff.1 h
  rw [List.length_reverse] at hlt
  rw [List.getElem_reverse] at hn
  refine ⟨hn ▸ List.getElem_mem _, hlt, ?_⟩
  have hlen : (announcedInboxes s.board).length = s.board.notices.length := List.length_map _
  have hidx : s.board.notices.length - ((s.slaves i).received + 1) < (announcedInboxes s.board).length := by omega
  rw [List.drop_eq_getElem_cons hidx]
  congr 1
  · simp only [announcedInboxes, List.getElem_map]
    rw [← hn]
    congr 3
    omega
  · congr 1
    omega

theorem DeliverInv.of_board (h : DeliverInv s) (hpub : PublishInv SlvInboxDoorbell.addrSlvInboxBuffer0 t.tx.publisher)
    (hc : Collected t) (hnotices : t.board.notices = s.board.notices) (hslaves : t.slaves = s.slaves) : DeliverInv t where
  publish := hpub
  collected := hc
  received i := by
    rw [hnotices, hslaves]
    exact h.received i
  slaves i := by
    simp only [announcedInboxes, hnotices, hslaves]
    exact h.slaves i

theorem DeliverInv.request (h : DeliverInv s) (v : BitVec 8) (hv : v ≠ 0) : DeliverInv (s.request v) :=
  h.of_board h.publish
    { pending := fun _ => rfl, last := fun hz => absurd hz hv, table := h.collected.table, carried := h.collected.carried
      complete := h.collected.complete } rfl rfl

theorem DeliverInv.task (h : DeliverInv s) (hok : DeliverOk s (.task m wait o safe)) :
    DeliverInv (s.task m wait o safe) := by
  have hpub : PublishInv SlvInboxDoorbell.addrSlvInboxBuffer0 (s.task m wait o safe).tx.publisher :=
    publishInv_inbox_step (e := .task (s.masterData m) wait o safe) h.publish ⟨fun hb => (hok hb).1, rfl⟩
  rcases @task_cases s.tx (s.masterData m) wait o safe with
    ⟨hb, hsent⟩ | ⟨hb, hsame, _⟩
  · obtain ⟨hfree, hsched⟩ := hok hb
    have hjob : s.board.job = none := Publisher.free_iff.1 hfree
    have hbuilt : (s.tx.built (s.masterData m)).Coupled :=
      ⟨h.publish.coupled.job, h.publish.coupled.created, h.publish.coupled.idle⟩
    have hboard : (s.task m wait o safe).board =
      ((s.tx.built (s.masterData m)).requestAndSchedule (dcomWhichBuffer m.currentTick) o).1.board :=
        congrArg Publisher.board hsent.publisher
    have hnil : scheduledInboxes s.board = announcedInboxes s.board := by simp [scheduledInboxes, hjob]
    rcases @task_watch s m wait o safe with
      ⟨_, hf, hflag, hw⟩ | ⟨hno, hflag, _, hw⟩
    · rw [Publisher.requestAndSchedule_of_free hbuilt hjob _ (hsched hf)] at hboard
      have hnotices : (s.task m wait o safe).board.notices = s.board.notices := by
        rw [hboard]
        rfl
      refine h.of_board hpub ?_ hnotices rfl
      constructor
      · exact fun hne => absurd hflag hne
      · intro _
        rw [hw]
        exact h.collected.pending hf
      · intro _ v p hvp
        rw [hw] at hvp
        cases hvp
        rfl
      · intro i
        rw [hw, hboard]
        exact (congrArg (Option.map _) (carried_cons_of_request hf)).trans rfl
      · rw [hnotices]
        exact h.collected.complete
    · have hf := hno hb
      have hcarried (i : OccId) : carried i (scheduledInboxes (s.task m wait o safe).board) =
          carried i (scheduledInboxes s.board) := by
        rcases (Publisher.requestAndSchedule_cases hbuilt (dcomWhichBuffer m.currentTick) o).2 with hs | ⟨_, hs⟩
        · rw [hboard, hs]
          rfl
        · rw [hboard, hs, hnil]
          exact carried_cons_of_none hf
      have hnotices : (s.task m wait o safe).board.notices = s.board.notices := by
        rw [hboard]
        rcases (Publisher.requestAndSchedule_cases hbuilt (dcomWhichBuffer m.currentTick) o).2 with hs | ⟨_, hs⟩ <;>
          rw [hs] <;> rfl
      refine h.of_board hpub ?_ hnotices rfl
      constructor
      · rw [hw, hflag]
        exact h.collected.pending
      · rw [hw, hflag]
        exact h.collected.last
      · rw [hw]
        exact h.collected.table
      · intro i
        rw [hw, hcarried i]
        exact h.collected.carried i
      · rw [hnotices]
        exact h.collected.complete
  · have hboard : (s.task m wait o safe).board = s.board := congrArg Publisher.board hsame
    rcases @task_watch s m wait o safe with
      ⟨hb', _⟩ | ⟨_, hflag, _, hw⟩
    · exact absurd hb' hb
    · refine h.of_board hpub ?_ (congrArg Board.notices hboard) rfl
      constructor
      · rw [hw, hflag]
        exact h.collected.pending
      · rw [hw, hflag]
        exact h.collected.last
      · rw [hw]
        exact h.collected.table
      · rw [hw, hboard]
        exact h.collected.carried
      · rw [hboard]
        exact h.collected.complete

theorem watchEngine_frame (e : EngineEvent) :
    (s.watchEngine e).last = s.watch.last ∧ (s.watchEngine e).collected = s.watch.collected ∧
      (s.watchEngine e).stored = s.watch.stored := by
  unfold Tunables.watchEngine
  split <;> exact ⟨rfl, rfl, rfl⟩

theorem DeliverInv.engine (h : DeliverInv s) {e : EngineEvent} (hok : DeliverOk s (.engine e))
    {p : Publisher (OccId → SlvInbox) SlvInboxDoorbell} (he : s.tx.publisher.engine 16 e = some p) :
    DeliverInv { s with tx := { s.tx with publisher := p }, watch := s.watchEngine e } := by
  have hpub : PublishInv SlvInboxDoorbell.addrSlvInboxBuffer0 p := h.publish.engine hok.1 he
  obtain ⟨hlast, hcollected, hstored⟩ := watchEngine_frame (s := s) e
  -- what a step does to the inboxes, for each of the three kinds
  have hwatch (hcarried : ∀ i, carried i (scheduledInboxes p.board) = carried i (scheduledInboxes s.board))
      (hcomplete : ∀ n ∈ p.board.notices, n.parts = 16 ∨ ∀ i, (n.job.buffer i).tunableParamOverwrite = 0) :
      Collected { s with tx := { s.tx with publisher := p }, watch := s.watchEngine e } := by
    refine ⟨?_, ?_, ?_, ?_, hcomplete⟩
    · simp only [hlast]
      exact h.collected.pending
    · simp only [hlast, hcollected]
      exact h.collected.last
    · simp only [hstored, hcollected]
      exact h.collected.table
    · intro i
      simp only [Tunables.board, hcarried i, hcollected]
      exact h.collected.carried i
  obtain ⟨_, ⟨_, hboard⟩ | ⟨_, hboard⟩ | ⟨failed, packets, rfl, _, hboard⟩⟩ :=
    Publisher.engine_cases h.publish.coupled he
  · refine h.of_board hpub (hwatch (fun i => ?_) ?_) (congrArg Board.notices hboard) rfl
    · rw [hboard]
    · rw [hboard]
      exact h.collected.complete
  · have hnotices : p.board.notices = s.board.notices := by
      rw [hboard]
      rfl
    refine h.of_board hpub (hwatch (fun i => ?_) ?_) hnotices rfl
    · rw [hboard]
      unfold scheduledInboxes Board.read announcedInboxes
      cases s.tx.publisher.board.job <;> rfl
    · rw [hboard]
      exact h.collected.complete
  · cases hjob : s.board.job with
    | none =>
      have hsame : p.board = s.board := by
        rw [hboard]
        unfold Board.finish
        rw [hjob]
      refine h.of_board hpub (hwatch (fun i => ?_) ?_) (congrArg Board.notices hsame) rfl
      · rw [hsame]
      · rw [hsame]
        exact h.collected.complete
    | some j =>
      have hnone : p.board.job = none := by
        rw [hboard]
        unfold Board.finish
        rw [hjob]
      have hold (i : OccId) : carried i (scheduledInboxes s.board) = carried i (j.buffer :: announcedInboxes s.board) := by
        simp [scheduledInboxes, hjob]
      have hnew (i : OccId) : carried i (scheduledInboxes p.board) = carried i (announcedInboxes p.board) := by
        simp [scheduledInboxes, hnone]
      by_cases hparts : 0 < packets
      · have hnotices : p.board.notices = ⟨s.board.note, packets, j, !failed⟩ :: s.board.notices := by
          rw [hboard]
          unfold Board.finish
          simp only [hjob, if_pos hparts]
        have hcomplete : packets = 16 ∨ ∀ i, (j.buffer i).tunableParamOverwrite = 0 := by
          by_cases hc : s.carriesRequest = true
          · have hends : failed = false ∧ packets = 16 := by simpa [EngineEvent.endsWell] using hok.2 hc
            exact .inl hends.2
          · refine .inr fun i => by_contra fun hi => hc ?_
            simp only [Tunables.carriesRequest, hjob, decide_eq_true_eq]
            exact ⟨i, hi⟩
        refine ⟨hpub, hwatch (fun i => ?_) ?_, fun i => ?_, fun i => ?_⟩
        · rw [hold i, hnew i, announcedInboxes, hnotices]
          rfl
        · intro n hn
          rw [hnotices] at hn
          rcases List.mem_cons.1 hn with rfl | hn
          · exact hcomplete
          · exact h.collected.complete n hn
        · simp only [Tunables.board, hnotices, List.length_cons]
          exact Nat.le_succ_of_le (h.received i)
        · simp only [Tunables.board]
          rw [drop_announced hnotices (h.received i)]
          exact h.slaves i
      · have hnotices : p.board.notices = s.board.notices := by
          rw [hboard]
          unfold Board.finish
          simp only [hjob, if_neg hparts]
        have hzero : ∀ i, (j.buffer i).tunableParamOverwrite = 0 := by
          refine fun i => by_contra fun hi => hparts ?_
          have hc : s.carriesRequest = true := by
            simp only [Tunables.carriesRequest, hjob, decide_eq_true_eq]
            exact ⟨i, hi⟩
          have hends : failed = false ∧ packets = 16 := by simpa [EngineEvent.endsWell] using hok.2 hc
          rw [hends.2]
          decide
        refine h.of_board hpub (hwatch (fun i => ?_) ?_) hnotices rfl
        · rw [hold i, hnew i, carried_cons_of_none (hzero i), announcedInboxes, hnotices]
          rfl
        · rw [hnotices]
          exact h.collected.complete

theorem DeliverInv.setSlave (h : DeliverInv s) (i : OccId) {sl : Slave} (hle : sl.received ≤ s.board.notices.length)
    (hsl : sl.Follows i ((announcedInboxes s.board).drop (s.board.notices.length - sl.received))) :
    DeliverInv (s.setSlave i sl) where
  publish := h.publish
  collected := ⟨h.collected.pending, h.collected.last, h.collected.table, h.collected.carried, h.collected.complete⟩
  received k := by
    by_cases hk : k = i
    · subst hk
      simpa [Tunables.setSlave] using hle
    · simpa [Tunables.setSlave, hk] using h.received k
  slaves k := by
    by_cases hk : k = i
    · subst hk
      simpa [Tunables.setSlave] using hsl
    · simpa [Tunables.setSlave, hk] using h.slaves k

theorem DeliverInv.step (h : DeliverInv s) {e : TunableEvent} (hs : Guarded DeliverOk (StepOf tunableNext) s e t) :
    DeliverInv t := by
  obtain ⟨hok, hs⟩ := hs
  cases e with
  | store id value =>
    cases hs
    exact ⟨h.publish, ⟨h.collected.pending, h.collected.last, nofun, h.collected.carried, h.collected.complete⟩,
      h.received, h.slaves⟩
  | restoreDefault i =>
    cases hs
    exact ⟨h.publish, ⟨h.collected.pending, h.collected.last, nofun, h.collected.carried, h.collected.complete⟩,
      h.received, h.slaves⟩
  | overwrite => cases hs; exact h.request 1 (by decide)
  | restore => cases hs; exact h.request 2 (by decide)
  | task m wait o safe => cases hs; exact h.task hok
  | engine e =>
    obtain ⟨p, hp, rfl⟩ := Option.map_eq_some_iff.1 hs
    exact h.engine hok hp
  | receive i k =>
    simp only [StepOf, tunableNext] at hs
    split at hs
    · rename_i n hn
      split at hs
      · obtain ⟨b, hb, rfl⟩ := Option.map_eq_some_iff.1 hs
        obtain ⟨hmem, hlt, hdrop⟩ := nextNotice_drop hn
        have hbuf : b = n.job.buffer := (h.publish.faithful.notices n hmem).job.read b (List.mem_of_getElem? hb)
        subst hbuf
        refine h.setSlave i hlt ?_
        show Slave.Follows _ i ((announcedInboxes s.board).drop (s.board.notices.length - ((s.slaves i).received + 1)))
        rw [hdrop]
        exact (h.slaves i).receive hok _
      · cases hs
    · cases hs
  | miss i =>
    simp only [StepOf, tunableNext] at hs
    split at hs
    · rename_i n hn
      split at hs
      · rename_i hparts
        cases hs
        obtain ⟨hmem, hlt, hdrop⟩ := nextNotice_drop hn
        have hzero := (h.collected.complete n hmem).resolve_left hparts.ne
        refine h.setSlave i hlt ?_
        show Slave.Follows _ i ((announcedInboxes s.board).drop (s.board.notices.length - ((s.slaves i).received + 1)))
        rw [hdrop]
        exact (h.slaves i).miss (hzero i) _
      · cases hs
    · cases hs
  | parse i =>
    cases hs
    have hreceived : (taskDcomParseOccfwmsg (s.slaves i)).received = (s.slaves i).received := by
      unfold taskDcomParseOccfwmsg
      dsimp only
      split <;> rfl
    refine h.setSlave i (hreceived ▸ h.received i) ?_
    rw [hreceived]
    exact (h.slaves i).parse

theorem deliverInv_boot (parts : OccId → List AmecPart) : DeliverInv (.boot parts) where
  publish := publishInv_boot _ _
  collected := ⟨fun h => absurd rfl h, fun _ => rfl, nofun, fun _ => rfl, nofun⟩
  received _ := Nat.le_refl _
  slaves _ := ⟨fun h => absurd rfl h, fun _ => nofun, fun _ => nofun⟩

end Step

/-! ## Runs -/

/-- A request is announced before its flag is cleared in exactly the runs that build no inbox with a request; and in every
run that meets the delivery condition, the slaves have the last request. -/
theorem tunableLaw (parts : OccId → List AmecPart) (es : List TunableEvent) (t : Tunables) :
    (Run (Guarded OrderedAfter (StepOf tunableNext)) (.boot parts) es t ↔
      Run (Guarded NoCollect (StepOf tunableNext)) (.boot parts) es t) ∧
    (Run (Guarded DeliverOk (StepOf tunableNext)) (.boot parts) es t → t.Delivered) :=
  ⟨run_ordered_iff, fun h => (h.invariant (P := DeliverInv) (fun _ _ _ hs hst => hs.step hst)
    (deliverInv_boot parts)).delivered⟩

/-- One core group with one core. -/
def onePart : OccId → List AmecPart := fun _ => [⟨true, [0], ⟨0, 0, 0, 0, 0, 0, 0, 0⟩⟩]

/-- The request is built into the inboxes between two copies. -/
def keptRequest : List TunableEvent :=
  [.task (.plain 0) .completed .started false, .engine .read, .store 4 12, .engine (.finish false 16), .overwrite,
    .task (.plain 1) .completed .queued false, .engine .start, .engine .read, .engine (.finish false 16),
    .receive 1 0, .parse 1, .receive 1 0, .parse 1]

instance (s : Tunables) (e : TunableEvent) : Decidable (DeliverOk s e) := by
  cases e <;> unfold DeliverOk <;> infer_instance

/-- The slave steps up by the new value. -/
theorem tunableLaw_kept :
    ∃ t, Run (StepOf tunableNext) (.boot onePart) keptRequest t ∧ t.Delivered ∧
      (t.slaves 1).slvDpsParamOverwrite = true ∧ (t.slaves 1).parts.map (·.dpsalg.stepUp) = [12] := by
  have ht : (exec (fun s e => if DeliverOk s e then tunableNext s e else none) (.boot onePart) keptRequest).map (fun t =>
      ((t.slaves 1).slvDpsParamOverwrite, (t.slaves 1).parts.map (·.dpsalg.stepUp))) = some (true, [12]) := by
    decide +kernel
  obtain ⟨t, hrun, hvals⟩ := Option.map_eq_some_iff.1 ht
  obtain ⟨hoverwrite, hstep⟩ := Prod.mk.inj hvals
  have hguarded := run_guarded_of_exec hrun
  exact ⟨t, hguarded.mono fun _ _ _ h => h.2, (tunableLaw onePart keptRequest t).2 hguarded, hoverwrite, hstep⟩

/-! ## A request that is lost -/

/-- The request arrives while a copy is under way, and the next inboxes are built with it before that copy is complete. -/
def lostRequest : List TunableEvent :=
  [.task (.plain 0) .completed .started false, .engine .read, .store 4 12, .overwrite,
    .task (.plain 1) .completed .started false, .engine (.finish false 16),
    .task (.plain 2) .completed .started false, .engine .read, .engine (.finish false 16),
    .receive 1 0, .parse 1, .receive 1 0, .parse 1]

/-- The flag is cleared, no inbox with the request was copied, and the slave does not know of it. -/
theorem tunableLaw_fails :
    ∃ t, Run (StepOf tunableNext) (.boot onePart) lostRequest t ∧ ¬t.Ordered ∧ ¬t.Delivered := by
  have ht : (exec tunableNext (.boot onePart) lostRequest).map (fun t =>
      ((t.watch.cleared, t.watch.delivered), (t.watch.last, t.tx.tunableParameterOverwrite, t.tx.publisher.free),
        (t.slaves 1).received == t.board.notices.length && (t.slaves 1).parsed, (t.slaves 1).slvDpsParamOverwrite)) =
      some ((1, 0), (some 1, 0, true), true, false) := by decide
  obtain ⟨t, hrun, hvals⟩ := Option.map_eq_some_iff.1 ht
  simp only [Prod.mk.injEq, Bool.and_eq_true, beq_iff_eq] at hvals
  obtain ⟨⟨hcleared, hdelivered⟩, ⟨hlast, hflag, hfree⟩, ⟨hreceived, hparsed⟩, hoverwrite⟩ := hvals
  refine ⟨t, exec_eq_some_iff.1 hrun, ?_, fun hlaw => ?_⟩
  · unfold Tunables.Ordered
    rw [hcleared, hdelivered]
    decide
  · obtain ⟨p, hhas, _⟩ := hlaw 1 1 hlast hflag hfree hreceived hparsed
    rw [hhas.overwrite] at hoverwrite
    cases hoverwrite

end Occ.Dcom
