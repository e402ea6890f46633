/-
Every part that the temperature checks mark as logged is called out in a committed log, over every run in which each
check finds room for its logs and one log holds the DIMMs that it marks.
-/
import Occ.Amec.Health
import Occ.Lib.Transition

namespace Occ.Amec

open Occ.Mask Occ.Errl Occ.Transition

/-! ## Marked parts and callouts -/

inductive Fru
  | dimm (port dimm : Nat)
  | cent (cent : Nat)
  | proc
deriving DecidableEq, Repr

/-- The HUID that a part is called out with. -/
def Fru.huid (c : SysConfig) : Fru → BitVec 64
  | .dimm port i => c.dimmHuid port i
  | .cent i => c.centHuid i
  | .proc => c.procHuid.setWidth 64

/-- The part is marked as logged. -/
def Health.Marked (h : Health) : Fru → Prop
  | .dimm port dimm => On (h.dimmOvertempLogged port) dimm ∨ On (h.dimmTimeoutLogged port) dimm
  | .cent cent => On h.centOvertempLogged cent ∨ On h.centTimeoutLogged cent
  | .proc => h.procOtErrorLogged

instance (h : Health) (fru : Fru) : Decidable (h.Marked fru) := by
  cases fru <;> unfold Health.Marked <;> infer_instance

/-- The part is called out in a committed log. -/
def Health.CalledOut (h : Health) (fru : Fru) : Prop := ∃ l ∈ h.committed, l.2.Mentions (fru.huid l.1)

def Health.CalloutsComplete (h : Health) : Prop := ∀ fru, h.Marked fru → h.CalledOut fru

/-! ## When a check calls out all that it marks -/

/-- Each log of the check gets a slot, and each commit is made. -/
def LogEnv.Clear (env : LogEnv) : Prop :=
  (∀ i, (getErrSlotNum .predictive (env.slotBits i)).isSome) ∧ ∀ i, env.suspended i = false ∧ env.checkStop i = false

/-- The reading of a DIMM has not come for too long, and the DIMM is not marked. -/
def Finds.timesOut (f : Finds) (age : Nat → Nat → BitVec 8) (logged : DimmFlags) (port dimm : Nat) : Bool :=
  On (f.dimmNeedInc port) dimm &&
    decide ¬(f.dimmTempTimeout port dimm = 0xff ∨ nextAge (age port dimm) < f.dimmTempTimeout port dimm) &&
      !On (logged port) dimm

/-- GPE1 has been busy for so long that no DIMM is blamed. -/
def Finds.excused (f : Finds) (port dimm : Nat) : Bool := decide (f.dimmTempTimeout port dimm < f.gpe1NotIdle)

/-- How many DIMMs of a port time out, up to the first that GPE1 excuses. -/
def Finds.timeouts (f : Finds) (age : Nat → Nat → BitVec 8) (logged : DimmFlags) (port : Nat) : List Nat → Nat
  | [] => 0
  | dimm :: dimms =>
    if f.timesOut age logged port dimm then
      if f.excused port dimm then 0 else f.timeouts age logged port dimms + 1
    else f.timeouts age logged port dimms

/-- A DIMM of the port is excused. -/
def Finds.excuses (f : Finds) (age : Nat → Nat → BitVec 8) (logged : DimmFlags) (port : Nat) (dimms : List Nat) : Bool :=
  dimms.any fun dimm => f.timesOut age logged port dimm && f.excused port dimm

/-- How many DIMMs time out, up to where the ports are left. -/
def Finds.portTimeouts (f : Finds) (age : Nat → Nat → BitVec 8) (logged : DimmFlags) (logGpe1Error : Bool) :
    List Nat → Nat
  | [] => 0
  | port :: ports =>
    let dimms := List.range f.config.memType.maxDimm
    if f.dimmNeedInc port = 0 then f.portTimeouts age logged logGpe1Error ports
    else if logGpe1Error || f.excuses age logged port dimms then f.timeouts age logged port dimms
    else f.timeouts age logged port dimms + f.portTimeouts age logged logGpe1Error ports

/-- A check finds room for its logs, and one log holds the DIMMs that it marks: five of each port over temperature
beside the procedure, or six without readings. -/
def Health.Ok (h : Health) (e : Check × Finds) : Prop :=
  e.2.logs.Clear ∧
    match e.1 with
    | .dimmTemp => ∀ port < e.2.config.memType.maxPort, e.2.dimmOvertemp port ≠ 0 →
        (List.range e.2.config.memType.maxDimm).countP (On (e.2.newDimms h.dimmOvertempLogged port)) < maxCallouts
    | .dimmTimeout => e.2.portTimeouts h.dimmAge h.dimmTimeoutLogged h.logGpe1Error
        (List.range e.2.config.memType.maxPort) ≤ maxCallouts
    | _ => True

/-! ## A check's logs -/

namespace Logging

variable {env : LogEnv} {l l' : Logging} {n k : Nat} {huid : BitVec 64}

/-- The part is called out in a log of the check. -/
def Mentions (l : Logging) (huid : BitVec 64) : Prop :=
  (∃ e ∈ l.committed, e.Mentions huid) ∨ ∃ e, l.err = .log e ∧ e.Mentions huid

/-- The check has a log open, with `n` callouts. -/
def Open (l : Logging) (n : Nat) : Prop := ∃ e, l.err = .log e ∧ e.Collects n

/-- No callout gets lost. -/
def Keeps (l l' : Logging) : Prop := ∀ huid, l.Mentions huid → l'.Mentions huid

theorem Keeps.refl (l : Logging) : l.Keeps l := fun _ h => h

theorem Keeps.trans {l'' : Logging} (h : l.Keeps l') (h' : l'.Keeps l'') : l.Keeps l'' := fun huid hm => h' huid (h huid hm)

theorem create_spec (henv : env.Clear) (hl : l.err = .null) (src : ErrlSource) (userData1 userData2 : BitVec 32) :
    (l.create env src userData1 userData2).Open 0 ∧ l.Keeps (l.create env src userData1 userData2) := by
  constructor
  · exact createErrl_collects (henv.1 _) src userData1 userData2
  · rintro huid (hc | ⟨e, he, -⟩)
    · exact .inl hc
    · rw [hl] at he
      cases he

theorem callout_spec (h : l.Open n) (hn : n < maxCallouts) (c : ErrlCallout) :
    (l.callout c).Open (n + 1) ∧ l.Keeps (l.callout c) ∧ (c.type = .huid → (l.callout c).Mentions c.calloutValue) := by
  obtain ⟨e, he, hcollects⟩ := h
  have herr : (l.callout c).err = .log (e.addCallout c) := by simp [callout, he, addCalloutToErrl]
  refine ⟨⟨_, herr, hcollects.addCallout hn c⟩, ?_, fun hc => .inr ⟨_, herr, c, ?_, hc, rfl⟩⟩
  · rintro huid (hm | ⟨e', he', c', hc', hhuid⟩)
    · exact .inl hm
    · obtain rfl : e = e' := by simpa [he] using he'
      refine .inr ⟨_, herr, c', ?_, hhuid⟩
      rw [hcollects.callouts hn]
      exact List.mem_append_left _ hc'
  · rw [hcollects.callouts hn]
    exact List.mem_append_right _ List.mem_cons_self

theorem commit_spec (henv : env.Clear) (h : l.Open n) : (l.commit env).err = .null ∧ l.Keeps (l.commit env) := by
  obtain ⟨e, he, hcollects⟩ := h
  obtain ⟨hs, hc⟩ := henv.2 l.commits
  have hcommit : commitErrl (env.suspended l.commits) (env.checkStop l.commits) l.err =
      (.null, false, some (e.commit false)) := by rw [hs, hc, he]; rfl
  constructor
  · simp only [commit, hcommit]
  · rintro huid (⟨e', he', hm⟩ | ⟨e', he', hm⟩)
    · refine .inl ⟨e', ?_, hm⟩
      simp only [commit]
      exact List.mem_append_left _ he'
    · obtain rfl : e = e' := by simpa [he] using he'
      refine .inl ⟨e.commit false, ?_, ?_⟩
      · simp [commit, hcommit]
      · unfold ErrlEntry.Mentions
        rw [hcollects.commit]
        exact hm

/-- Between two parts: no log is open, or the open one has as many callouts as are counted. -/
def Ready (l : Logging) : Prop := l.err = .null ∨ l.Open l.calloutsCount

theorem finish_spec (henv : env.Clear) (h : l.Ready) : (l.finish env).err = .null ∧ l.Keeps (l.finish env) := by
  unfold finish
  split
  · rename_i hnull
    exact ⟨hnull, Keeps.refl l⟩
  · rename_i hnull
    obtain h | h := h
    · exact absurd h hnull
    · exact commit_spec henv h

theorem Mentions.committed (h : l.Mentions huid) (hnull : l.err = .null) : ∃ e ∈ l.committed, e.Mentions huid := by
  obtain h | ⟨e, he, -⟩ := h
  · exact h
  · rw [hnull] at he
    cases he

/-- The log that the next part is called out in is open: a new log, which begins with `k` callouts, or the one that
was open. -/
structure Ensured (k : Nat) (l l' : Logging) : Prop where
  opened : l'.Open l'.calloutsCount
  keeps : l.Keeps l'
  count : l'.calloutsCount = if l.err = .null then k else l.calloutsCount

theorem ensureTemp_spec (henv : env.Clear) (h : l.Ready) (src : ErrlSource) (userData1 userData2 : BitVec 32) :
    Ensured 1 l (l.ensureTemp env src userData1 userData2) := by
  unfold ensureTemp
  split
  · rename_i hnull
    obtain ⟨hopen, hkeeps⟩ := create_spec henv hnull src userData1 userData2
    obtain ⟨hopen', hkeeps', -⟩ := callout_spec hopen (by decide) overTemperatureCallout
    exact ⟨hopen', hkeeps.trans hkeeps', by rw [if_pos hnull]⟩
  · rename_i hnull
    exact ⟨h.resolve_left hnull, Keeps.refl l, by rw [if_neg hnull]⟩

theorem calloutPart_spec (h : l.Open l.calloutsCount) (hn : l.calloutsCount < maxCallouts) (huid : BitVec 64) :
    (l.calloutPart huid).Open (l.calloutPart huid).calloutsCount ∧ l.Keeps (l.calloutPart huid) ∧
      (l.calloutPart huid).Mentions huid := by
  obtain ⟨hopen, hkeeps, hmentions⟩ := callout_spec h hn (huidCallout huid)
  exact ⟨hopen, hkeeps, hmentions rfl⟩

/-- There is room for `n` more parts, in the open log or in a new one that begins with `k` callouts. -/
def Room (k n : Nat) (l : Logging) : Prop :=
  (l.err = .null ∧ l.calloutsCount = 0 ∧ k + n ≤ maxCallouts) ∨ (l.Open l.calloutsCount ∧ l.calloutsCount + n ≤ maxCallouts)

theorem Open.ne_null (h : l.Open n) : l.err ≠ .null := by
  obtain ⟨e, he, -⟩ := h
  rw [he]
  exact nofun

theorem Room.ready (h : l.Room k n) : l.Ready := h.imp (·.1) (·.1)

theorem Room.lt (h : l.Room k (n + 1)) : l.calloutsCount < maxCallouts := by
  obtain ⟨-, hcount, hle⟩ | ⟨-, hle⟩ := h
  · omega
  · omega

theorem Room.le {m : Nat} (h : l.Room k n) (hm : m ≤ n) : l.Room k m := by
  obtain ⟨hnull, hcount, hle⟩ | ⟨hopen, hle⟩ := h
  · exact .inl ⟨hnull, hcount, by omega⟩
  · exact .inr ⟨hopen, by omega⟩

theorem Room.part (h : l.Room k (n + 1)) (hens : Ensured k l l') (huid : BitVec 64) :
    (l'.calloutPart huid).Room k n ∧ l.Keeps (l'.calloutPart huid) ∧ (l'.calloutPart huid).Mentions huid := by
  have hle : l'.calloutsCount + (n + 1) ≤ maxCallouts := by
    rw [hens.count]
    obtain ⟨hnull, -, hle⟩ | ⟨hopen, hle⟩ := h
    · rw [if_pos hnull]
      exact hle
    · rw [if_neg hopen.ne_null]
      exact hle
  obtain ⟨hopen, hkeeps, hmentions⟩ := calloutPart_spec hens.opened (by omega) huid
  refine ⟨.inr ⟨hopen, ?_⟩, hens.keeps.trans hkeeps, hmentions⟩
  show l'.calloutsCount + 1 + n ≤ maxCallouts
  omega

end Logging

/-! ## What a loop marks, it calls out -/

/-- From one state of a loop to a later one, callouts stay and every new mark has its callout. -/
structure Accounts {κ : Type} (huid : κ → BitVec 64) (m : κ → Bool) (l : Logging) (m' : κ → Bool) (l' : Logging) : Prop where
  keeps : l.Keeps l'
  marks : ∀ k, m' k = true → m k = true ∨ l'.Mentions (huid k)

namespace Accounts

variable {κ : Type} {huid : κ → BitVec 64} {m m' m'' : κ → Bool} {l l' l'' : Logging}

theorem of_keeps (h : l.Keeps l') : Accounts huid m l m l' := ⟨h, fun _ hk => .inl hk⟩

theorem refl (huid : κ → BitVec 64) (m : κ → Bool) (l : Logging) : Accounts huid m l m l := of_keeps (.refl l)

theorem trans (h : Accounts huid m l m' l') (h' : Accounts huid m' l' m'' l'') : Accounts huid m l m'' l'' where
  keeps := h.keeps.trans h'.keeps
  marks k hk := by
    obtain hk | hk := h'.marks k hk
    · obtain hk | hk := h.marks k hk
      · exact .inl hk
      · exact .inr (h'.keeps _ hk)
    · exact .inr hk

theorem committed {env : LogEnv} (henv : env.Clear) (h : Accounts huid m .start m' l) (hl : l.Ready) (k : κ)
    (hk : m' k = true) : m k = true ∨ ∃ e ∈ (l.finish env).committed, e.Mentions (huid k) := by
  obtain ⟨hnull, hkeeps⟩ := l.finish_spec henv hl
  exact (h.marks k hk).imp_right fun hm => (hkeeps _ hm).committed hnull

end Accounts

/-- The flag of a DIMM. -/
def dimmOn (flags : DimmFlags) (k : Nat × Nat) : Bool := On (flags k.1) k.2

theorem dimmOn_mark {flags : DimmFlags} {port dimm : Nat} {k : Nat × Nat} (h : dimmOn (markDimm flags port dimm) k = true) :
    dimmOn flags k = true ∨ k = (port, dimm) := by
  obtain ⟨p, d⟩ := k
  unfold dimmOn markDimm at h
  by_cases hp : p = port
  · subst hp
    rw [Function.update_self, on_set, Bool.or_eq_true, Bool.and_eq_true, decide_eq_true_eq] at h
    exact h.imp_right fun hd => Prod.ext rfl hd.1
  · rw [Function.update_of_ne hp] at h
    exact .inl h

theorem on_markCent {flags : BitVec 16} {cent k : Nat} (h : On (markCent flags cent) k = true) :
    On flags k = true ∨ k = cent := by
  rw [markCent, on_set, Bool.or_eq_true, Bool.and_eq_true, decide_eq_true_eq] at h
  exact h.imp_right (·.1)

/-- The HUID of a DIMM, by its position. -/
def SysConfig.dimmHuidAt (c : SysConfig) (k : Nat × Nat) : BitVec 64 := c.dimmHuid k.1 k.2

theorem accounts_dimm {c : SysConfig} {flags : DimmFlags} {l l' : Logging} {port dimm : Nat} (hkeeps : l.Keeps l')
    (hm : l'.Mentions (c.dimmHuid port dimm)) :
    Accounts c.dimmHuidAt (dimmOn flags) l (dimmOn (markDimm flags port dimm)) l' where
  keeps := hkeeps
  marks k hk := (dimmOn_mark hk).imp_right fun h => by rw [h]; exact hm

theorem accounts_cent {c : SysConfig} {flags : BitVec 16} {l l' : Logging} {cent : Nat} (hkeeps : l.Keeps l')
    (hm : l'.Mentions (c.centHuid cent)) : Accounts c.centHuid (On flags) l (On (markCent flags cent)) l' where
  keeps := hkeeps
  marks k hk := (on_markCent hk).imp_right fun h => by rw [h]; exact hm

/-! ## DIMMs over temperature -/

section
variable {f : Finds} {port : Nat}

/-- The marks and callouts of the loops over DIMMs. -/
def DimmTemp.Accounts (f : Finds) (s s' : DimmTemp) : Prop :=
  Amec.Accounts f.config.dimmHuidAt (dimmOn s.logged) s.log (dimmOn s'.logged) s'.log

theorem DimmTemp.Accounts.trans {s s' s'' : DimmTemp} (h : s.Accounts f s') (h' : s'.Accounts f s'') : s.Accounts f s'' :=
  Amec.Accounts.trans h h'

theorem dimmTempDimm_spec (henv : f.logs.Clear) {new : BitVec 8} {dimm n : Nat} (hon : On new dimm = true) {s : DimmTemp}
    (h : s.log.Room 1 (n + 1)) :
    (dimmTempDimm f port new s dimm).log.Room 1 n ∧ s.Accounts f (dimmTempDimm f port new s dimm) := by
  unfold dimmTempDimm
  rw [if_pos hon]
  dsimp only
  rw [if_pos h.lt]
  obtain ⟨hroom, hkeeps, hmentions⟩ := h.part (Logging.ensureTemp_spec henv h.ready dimmTempSource
    ((f.dimmOtError port dimm).2.setWidth 32) ((f.dimmOtError port dimm).1.setWidth 32)) (f.config.dimmHuid port dimm)
  exact ⟨hroom, accounts_dimm hkeeps hmentions⟩

theorem dimmTempDimm_frame (new : BitVec 8) (s : DimmTemp) (dimm : Nat) {q : Nat} (hq : q ≠ port) :
    (dimmTempDimm f port new s dimm).logged q = s.logged q := by
  unfold dimmTempDimm
  split
  · dsimp only
    split <;> exact Function.update_of_ne hq _ _
  · rfl

theorem dimmTempDimms_spec (henv : f.logs.Clear) {new : BitVec 8} (dimms : List Nat) {s : DimmTemp}
    (h : s.log.Room 1 (dimms.countP (On new))) :
    (dimms.foldl (dimmTempDimm f port new) s).log.Room 1 0 ∧ s.Accounts f (dimms.foldl (dimmTempDimm f port new) s) ∧
      ∀ q, q ≠ port → (dimms.foldl (dimmTempDimm f port new) s).logged q = s.logged q := by
  induction dimms generalizing s with
  | nil => exact ⟨h, .refl _ _ _, fun _ _ => rfl⟩
  | cons dimm dimms ih =>
    rw [List.foldl_cons]
    by_cases hon : On new dimm = true
    · rw [List.countP_cons_of_pos hon] at h
      obtain ⟨hroom, hacc⟩ := @dimmTempDimm_spec f port henv _ _ _ hon _ h
      obtain ⟨hroom', hacc', hframe⟩ := ih hroom
      exact ⟨hroom', hacc.trans hacc', fun q hq => (hframe q hq).trans (dimmTempDimm_frame new s dimm hq)⟩
    · rw [List.countP_cons_of_neg hon] at h
      have hskip : dimmTempDimm f port new s dimm = s := if_neg hon
      rw [hskip]
      exact ih h

theorem dimmTempPort_spec (henv : f.logs.Clear) {s : DimmTemp} (h : s.log.Room 1 0)
    (hport : f.dimmOvertemp port ≠ 0 →
      (List.range f.config.memType.maxDimm).countP (On (f.newDimms s.logged port)) < maxCallouts) :
    (dimmTempPort f s port).log.Room 1 0 ∧ s.Accounts f (dimmTempPort f s port) ∧
      ∀ q, q ≠ port → (dimmTempPort f s port).logged q = s.logged q := by
  unfold dimmTempPort
  dsimp only
  by_cases hnew : f.newDimms s.logged port = 0 ∨ f.dimmOvertemp port = 0
  · rw [if_pos hnew]
    exact ⟨h, .refl _ _ _, fun _ _ => rfl⟩
  · rw [if_neg hnew]
    have hcount : 1 + (List.range f.config.memType.maxDimm).countP (On (f.newDimms s.logged port)) ≤ maxCallouts := by
      have := hport fun h0 => hnew (.inr h0)
      omega
    obtain ⟨hnull, hzero, -⟩ | ⟨hopen, -⟩ := h
    · rw [if_pos hnull]
      exact dimmTempDimms_spec henv _ (.inl ⟨hnull, hzero, hcount⟩)
    · -- the log of the port before is committed
      rw [if_neg hopen.ne_null]
      obtain ⟨hnull, hkeeps⟩ := Logging.commit_spec henv hopen
      have hkeeps : s.log.Keeps { s.log.commit f.logs with calloutsCount := 0 } := hkeeps
      obtain ⟨hroom, hacc, hframe⟩ := @dimmTempDimms_spec f port henv _ (List.range f.config.memType.maxDimm)
        { s with log := { s.log.commit f.logs with calloutsCount := 0 } } (.inl ⟨hnull, rfl, hcount⟩)
      exact ⟨hroom, (Accounts.of_keeps hkeeps).trans hacc, hframe⟩

theorem dimmTempPorts_spec (henv : f.logs.Clear) {ports : List Nat} (hnodup : ports.Nodup) {s : DimmTemp}
    (h : s.log.Room 1 0) (hports : ∀ port ∈ ports, f.dimmOvertemp port ≠ 0 →
      (List.range f.config.memType.maxDimm).countP (On (f.newDimms s.logged port)) < maxCallouts) :
    (ports.foldl (dimmTempPort f) s).log.Room 1 0 ∧ s.Accounts f (ports.foldl (dimmTempPort f) s) := by
  induction ports generalizing s with
  | nil => exact ⟨h, .refl _ _ _⟩
  | cons port ports ih =>
    rw [List.foldl_cons]
    rw [List.nodup_cons] at hnodup
    obtain ⟨hroom, hacc, hframe⟩ := dimmTempPort_spec henv h (hports port List.mem_cons_self)
    have hrest : ∀ q ∈ ports, f.dimmOvertemp q ≠ 0 → (List.range f.config.memType.maxDimm).countP
        (On (f.newDimms (dimmTempPort f s port).logged q)) < maxCallouts := by
      intro q hq
      unfold Finds.newDimms
      rw [hframe q fun he => hnodup.1 (he ▸ hq)]
      exact hports q (List.mem_cons_of_mem _ hq)
    obtain ⟨hroom', hacc'⟩ := ih hnodup.2 hroom hrest
    exact ⟨hroom', hacc.trans hacc'⟩

theorem dimmTemp_spec (henv : f.logs.Clear) {logged : DimmFlags} (hports : ∀ port < f.config.memType.maxPort,
      f.dimmOvertemp port ≠ 0 →
        (List.range f.config.memType.maxDimm).countP (On (f.newDimms logged port)) < maxCallouts)
    (k : Nat × Nat) (hk : dimmOn (dimmTemp f logged).1 k = true) :
    dimmOn logged k = true ∨ ∃ e ∈ (dimmTemp f logged).2, e.Mentions (f.config.dimmHuidAt k) := by
  unfold dimmTemp at hk ⊢
  split at hk
  · exact .inl hk
  · rename_i hne
    rw [if_neg hne]
    obtain ⟨hroom, hacc⟩ := dimmTempPorts_spec (s := ⟨logged, .start⟩) henv List.nodup_range (.inl ⟨rfl, rfl, by decide⟩)
      fun port hp => hports port (List.mem_range.1 hp)
    exact Amec.Accounts.committed henv hacc hroom.ready k hk

end

/-! ## DIMMs without readings -/

section
variable {f : Finds} {port : Nat}

/-- What a DIMM does to the loop: its age is its own; it is passed over, or leaves the loop, or is marked and called
out if the log has room. -/
theorem dimmTimeoutDimm_cases (henv : f.logs.Clear) (dimm : Nat) (s : DimmTimeout) :
    let r := dimmTimeoutDimm f (f.dimmNeedInc port) port dimm s
    (∀ q d, (q, d) ≠ (port, dimm) → r.1.age q d = s.age q d) ∧
      ((f.timesOut s.age s.logged port dimm = false ∧ r.2 = false ∧ r.1.log = s.log ∧ r.1.logged = s.logged ∧
          r.1.logGpe1Error = s.logGpe1Error) ∨
        (f.timesOut s.age s.logged port dimm = true ∧ f.excused port dimm = true ∧ r.2 = true ∧ r.1.log = s.log ∧
          r.1.logged = s.logged ∧ r.1.logGpe1Error = true) ∨
        (f.timesOut s.age s.logged port dimm = true ∧ f.excused port dimm = false ∧ r.2 = false ∧
          r.1.logged = markDimm s.logged port dimm ∧ r.1.logGpe1Error = s.logGpe1Error ∧
          ∀ n, s.log.Room 0 (n + 1) → r.1.log.Room 0 n ∧ s.log.Keeps r.1.log ∧
            r.1.log.Mentions (f.config.dimmHuid port dimm))) := by
  have hage : ∀ q d, (q, d) ≠ (port, dimm) →
      Function.update s.age port (Function.update (s.age port) dimm (nextAge (s.age port dimm))) q d = s.age q d := by
    intro q d hne
    by_cases hq : q = port
    · subst hq
      rw [Function.update_self, Function.update_of_ne fun hd => hne (by rw [hd])]
    · rw [Function.update_of_ne hq]
  unfold dimmTimeoutDimm Finds.timesOut Finds.excused
  dsimp only
  by_cases hinc : On (f.dimmNeedInc port) dimm = true
  · rw [if_pos hinc, hinc]
    by_cases hwait : f.dimmTempTimeout port dimm = 0xff ∨ nextAge (s.age port dimm) < f.dimmTempTimeout port dimm
    · rw [if_pos hwait]
      exact ⟨hage, .inl ⟨by rw [decide_eq_false (not_not.2 hwait)]; rfl, rfl, rfl, rfl, rfl⟩⟩
    · rw [if_neg hwait]
      by_cases hlogged : On (s.logged port) dimm = true
      · rw [if_pos hlogged]
        exact ⟨hage, .inl ⟨by simp [hlogged], rfl, rfl, rfl, rfl⟩⟩
      · rw [if_neg hlogged]
        have hout : (true && decide ¬(f.dimmTempTimeout port dimm = 0xff ∨
            nextAge (s.age port dimm) < f.dimmTempTimeout port dimm) && !On (s.logged port) dimm) = true := by
          rw [decide_eq_true hwait]
          simp [hlogged]
        by_cases hexc : f.dimmTempTimeout port dimm < f.gpe1NotIdle
        · rw [if_pos hexc]
          exact ⟨hage, .inr (.inl ⟨hout, decide_eq_true hexc, rfl, rfl, rfl, rfl⟩)⟩
        · rw [if_neg hexc]
          refine ⟨?_, .inr (.inr ⟨hout, decide_eq_false hexc, ?_, ?_, ?_, fun n hroom => ?_⟩)⟩
          · split <;> exact hage
          · split <;> rfl
          · split <;> rfl
          · split <;> rfl
          · rw [if_pos hroom.lt]
            refine hroom.part ?_ _
            -- the log of the call is created by its first callout
            split
            · rename_i hnull
              obtain ⟨hopen, hkeeps⟩ := Logging.create_spec henv hnull dimmTimeoutSource
                ((f.dimmTempTimeout port dimm).setWidth 32) 0
              have hzero : s.log.calloutsCount = 0 := hroom.elim (·.2.1) fun h => absurd hnull h.1.ne_null
              exact ⟨by rw [Logging.create, hzero]; exact hopen, hkeeps, by rw [if_pos hnull]; exact hzero⟩
            · rename_i hnull
              exact ⟨hroom.ready.resolve_left hnull, .refl _, by rw [if_neg hnull]⟩
  · rw [if_neg hinc]
    exact ⟨fun _ _ _ => rfl, .inl ⟨by simp [hinc], rfl, rfl, rfl, rfl⟩⟩

def DimmTimeout.Accounts (f : Finds) (s s' : DimmTimeout) : Prop :=
  Amec.Accounts f.config.dimmHuidAt (dimmOn s.logged) s.log (dimmOn s'.logged) s'.log

/-- The DIMMs of a port, by induction on those that are left, whose ages and marks are still those that the call has
found: room for those that time out becomes callouts of them. -/
theorem dimmTimeoutDimms_spec (henv : f.logs.Clear) {age : Nat → Nat → BitVec 8} {logged : DimmFlags} {n : Nat}
    {dimms : List Nat} (hnodup : dimms.Nodup) {s : DimmTimeout}
    (hs : ∀ d ∈ dimms, f.timesOut s.age s.logged port d = f.timesOut age logged port d)
    (h : s.log.Room 0 (f.timeouts age logged port dimms + n)) :
    let s' := dimmTimeoutDimms f (f.dimmNeedInc port) port dimms s
    s'.log.Room 0 n ∧ s.Accounts f s' ∧
      s'.logGpe1Error = (s.logGpe1Error || f.excuses age logged port dimms) ∧
      ∀ q, q ≠ port → s'.age q = s.age q ∧ s'.logged q = s.logged q := by
  induction dimms generalizing s with
  | nil => exact ⟨h.le (by omega), .refl _ _ _, by simp [dimmTimeoutDimms, Finds.excuses], fun _ _ => ⟨rfl, rfl⟩⟩
  | cons dimm dimms ih =>
    rw [List.nodup_cons] at hnodup
    have hdimm := hs dimm List.mem_cons_self
    obtain ⟨hage, hcases⟩ := @dimmTimeoutDimm_cases f port henv dimm s
    unfold dimmTimeoutDimms
    dsimp only
    generalize dimmTimeoutDimm f (f.dimmNeedInc port) port dimm s = r at hage hcases
    have hageq : ∀ q, q ≠ port → r.1.age q = s.age q :=
      fun q hq => funext fun d => hage q d fun he => hq (congrArg Prod.fst he)
    have hrest : (∀ d ∈ dimms, On (r.1.logged port) d = On (s.logged port) d) →
        ∀ d ∈ dimms, f.timesOut r.1.age r.1.logged port d = f.timesOut age logged port d := by
      intro hlogged d hd
      rw [← hs d (List.mem_cons_of_mem _ hd)]
      unfold Finds.timesOut
      rw [hage port d fun he => hnodup.1 (by cases he; exact hd), hlogged d hd]
    obtain ⟨hout, hstop, hlog, hlogged, hgpe⟩ | ⟨hout, hexc, hstop, hlog, hlogged, hgpe⟩ |
      ⟨hout, hexc, hstop, hlogged, hgpe, hpart⟩ := hcases
    · -- passed over
      rw [hstop, if_neg Bool.false_ne_true]
      rw [Finds.timeouts, ← hdimm, hout, if_neg Bool.false_ne_true, ← hlog] at h
      obtain ⟨hroom, hacc, hgpe', hframe⟩ := ih hnodup.2 (hrest fun _ _ => by rw [hlogged]) h
      refine ⟨hroom, ?_, ?_, fun q hq => ?_⟩
      · unfold DimmTimeout.Accounts at hacc ⊢
        rwa [hlog, hlogged] at hacc
      · rw [hgpe', hgpe]
        simp [Finds.excuses, ← hdimm, hout]
      · rw [(hframe q hq).1, (hframe q hq).2, hageq q hq, hlogged]
        exact ⟨rfl, rfl⟩
    · -- excused: the loop is left
      rw [hstop, if_pos rfl]
      refine ⟨?_, ?_, ?_, fun q hq => ⟨hageq q hq, by rw [hlogged]⟩⟩
      · rw [hlog]
        exact h.le (by omega)
      · unfold DimmTimeout.Accounts
        rw [hlog, hlogged]
        exact .refl _ _ _
      · rw [hgpe]
        simp [Finds.excuses, ← hdimm, hout, hexc]
    · -- marked and called out
      rw [hstop, if_neg Bool.false_ne_true]
      rw [Finds.timeouts, ← hdimm, hout, if_pos rfl, hexc, if_neg Bool.false_ne_true] at h
      obtain ⟨hroom, hkeeps, hmentions⟩ := hpart _ (show s.log.Room 0 (f.timeouts age logged port dimms + n + 1) by
        rwa [Nat.add_right_comm] at h)
      have hmark : ∀ q d, (q, d) ≠ (port, dimm) → On (r.1.logged q) d = On (s.logged q) d := by
        intro q d hne
        rw [hlogged, markDimm]
        by_cases hq : q = port
        · subst hq
          have hd : d ≠ dimm := fun hd => hne (by rw [hd])
          simp [on_set, hd]
        · rw [Function.update_of_ne hq]
      obtain ⟨hroom', hacc, hgpe', hframe⟩ := ih hnodup.2
        (hrest fun d hd => hmark port d fun he => hnodup.1 (by cases he; exact hd)) hroom
      refine ⟨hroom', ?_, ?_, fun q hq => ?_⟩
      · unfold DimmTimeout.Accounts at hacc ⊢
        rw [hlogged] at hacc
        exact (accounts_dimm hkeeps hmentions).trans hacc
      · rw [hgpe', hgpe]
        simp [Finds.excuses, ← hdimm, hout, hexc]
      · rw [(hframe q hq).1, (hframe q hq).2, hageq q hq, hlogged, markDimm, Function.update_of_ne hq]
        exact ⟨rfl, rfl⟩

/-- The ports, by induction on those that are left. -/
theorem dimmTimeoutPorts_spec (henv : f.logs.Clear) {age : Nat → Nat → BitVec 8} {logged : DimmFlags} {ports : List Nat}
    (hnodup : ports.Nodup) {s : DimmTimeout}
    (hs : ∀ q ∈ ports, s.age q = age q ∧ s.logged q = logged q)
    (h : s.log.Room 0 (f.portTimeouts age logged s.logGpe1Error ports)) :
    (dimmTimeoutPorts f ports s).log.Ready ∧ s.Accounts f (dimmTimeoutPorts f ports s) := by
  induction ports generalizing s with
  | nil => exact ⟨h.ready, .refl _ _ _⟩
  | cons port ports ih =>
    rw [List.nodup_cons] at hnodup
    have hports : ∀ q ∈ ports, s.age q = age q ∧ s.logged q = logged q := fun q hq => hs q (List.mem_cons_of_mem _ hq)
    unfold dimmTimeoutPorts
    unfold Finds.portTimeouts at h
    dsimp only at h
    by_cases hinc : f.dimmNeedInc port = 0
    · rw [if_pos hinc] at h ⊢
      exact ih hnodup.2 (s := { s with expired := Function.update s.expired port 0 }) hports h
    · rw [if_neg hinc] at h ⊢
      dsimp only
      have hdimms : ∀ d ∈ List.range f.config.memType.maxDimm,
          f.timesOut s.age s.logged port d = f.timesOut age logged port d := by
        intro d _
        unfold Finds.timesOut
        rw [(hs port List.mem_cons_self).1, (hs port List.mem_cons_self).2]
      by_cases hleave : (s.logGpe1Error || f.excuses age logged port (List.range f.config.memType.maxDimm)) = true
      · rw [if_pos hleave] at h
        obtain ⟨hroom, hacc, hgpe, -⟩ := dimmTimeoutDimms_spec (n := 0) henv List.nodup_range hdimms h
        rw [if_pos (hgpe.trans hleave)]
        exact ⟨hroom.ready, hacc⟩
      · rw [if_neg hleave] at h
        obtain ⟨hroom, hacc, hgpe, hframe⟩ := dimmTimeoutDimms_spec henv List.nodup_range hdimms h
        have hstay := Bool.eq_false_iff.2 hleave
        rw [if_neg (by rw [hgpe]; exact hleave)]
        have hfalse : s.logGpe1Error = false := (Bool.or_eq_false_iff.1 hstay).1
        obtain ⟨hready, hacc'⟩ := ih hnodup.2 (s := dimmTimeoutDimms f (f.dimmNeedInc port) port _ s)
          (fun q hq => by
            obtain ⟨hage, hlogged⟩ := hframe q fun he => hnodup.1 (he ▸ hq)
            rw [hage, hlogged]
            exact hports q hq)
          (by rw [hgpe, hstay, ← hfalse]; exact hroom)
        exact ⟨hready, Amec.Accounts.trans hacc hacc'⟩

end

/-! ## Memory buffers -/

namespace Logging

variable {env : LogEnv} {l l' : Logging}

/-- A check that commits full logs: no log is open, or the open one is not full. -/
def Filling (l : Logging) : Prop := l.err = .null ∨ (l.Open l.calloutsCount ∧ l.calloutsCount < maxCallouts)

theorem Filling.ready (h : l.Filling) : l.Ready := h.imp_right (·.1)

/-- A part is called out, and a full log is committed. -/
def fill (env : LogEnv) (huid : BitVec 64) (l : Logging) : Logging :=
  if (l.calloutPart huid).calloutsCount = maxCallouts then (l.calloutPart huid).commit env else l.calloutPart huid

theorem Filling.part {k : Nat} (henv : env.Clear) (h : l.Filling) (hk : k < maxCallouts) (hens : Ensured k l l')
    (huid : BitVec 64) :
    (l'.fill env huid).Filling ∧ l.Keeps (l'.fill env huid) ∧ (l'.fill env huid).Mentions huid := by
  have hlt : l'.calloutsCount < maxCallouts := by
    rw [hens.count]
    split
    · exact hk
    · rename_i hnull
      exact (h.resolve_left hnull).2
  obtain ⟨hopen, hkeeps, hmentions⟩ := calloutPart_spec hens.opened hlt huid
  have hkeeps := hens.keeps.trans hkeeps
  unfold fill
  split
  · obtain ⟨hnull, hkeeps'⟩ := commit_spec henv hopen
    exact ⟨.inl hnull, hkeeps.trans hkeeps', hkeeps' _ hmentions⟩
  · rename_i hne
    exact ⟨.inr ⟨hopen, Nat.lt_of_le_of_ne hlt hne⟩, hkeeps, hmentions⟩

end Logging

section
variable {f : Finds}

theorem centTempCents_spec (henv : f.logs.Clear) {new : BitVec 16} (cents : List Nat) {s : CentTemp} (h : s.log.Filling) :
    (cents.foldl (centTempCent f new) s).log.Filling ∧ Accounts f.config.centHuid (On s.logged) s.log
      (On (cents.foldl (centTempCent f new) s).logged) (cents.foldl (centTempCent f new) s).log := by
  induction cents generalizing s with
  | nil => exact ⟨h, .refl _ _ _⟩
  | cons cent cents ih =>
    rw [List.foldl_cons]
    by_cases hon : On new cent = true
    · obtain ⟨hfilling, hkeeps, hmentions⟩ := h.part henv (by decide) (Logging.ensureTemp_spec henv h.ready centTempSource
        (f.thermalcent.sampleMax.setWidth 32) (f.thermalcent.otError.setWidth 32)) (f.config.centHuid cent)
      rw [show centTempCent f new s cent = ⟨markCent s.logged cent, _⟩ from if_pos hon]
      obtain ⟨hfilling', hacc⟩ := ih (s := ⟨markCent s.logged cent, _⟩) hfilling
      exact ⟨hfilling', (accounts_cent hkeeps hmentions).trans hacc⟩
    · rw [show centTempCent f new s cent = s from if_neg hon]
      exact ih h

theorem centTemp_spec (henv : f.logs.Clear) {logged : BitVec 16} (cent : Nat) (hk : On (centTemp f logged).1 cent = true) :
    On logged cent = true ∨ ∃ e ∈ (centTemp f logged).2, e.Mentions (f.config.centHuid cent) := by
  unfold centTemp at hk ⊢
  dsimp only at hk ⊢
  split at hk
  · exact .inl hk
  · rename_i hne
    rw [if_neg hne]
    obtain ⟨hfilling, hacc⟩ := @centTempCents_spec f henv (f.centOvertemp ^^^ logged)
      (List.range f.config.memType.maxMemBuf) ⟨logged, .start⟩ (.inl rfl)
    exact hacc.committed henv hfilling.ready cent hk

def CentTimeout.Accounts (f : Finds) (s s' : CentTimeout) : Prop :=
  Amec.Accounts f.config.centHuid (On s.logged) s.log (On s'.logged) s'.log

theorem centTimeoutCent_spec (henv : f.logs.Clear) (needInc : BitVec 16) (cent : Nat) {s : CentTimeout}
    (h : s.log.Filling) :
    (centTimeoutCent f needInc cent s).1.log.Filling ∧ s.Accounts f (centTimeoutCent f needInc cent s).1 := by
  have hsame : s.log.Filling ∧ s.Accounts f s := ⟨h, .refl _ _ _⟩
  unfold centTimeoutCent
  dsimp only
  split
  · split
    · exact hsame
    · split
      · exact hsame
      · split
        · exact hsame
        · have hens : Logging.Ensured 0 s.log (if s.log.err = .null then
              { s.log.create f.logs centTimeoutSource (f.thermalcent.tempTimeout.setWidth 32) 0 with calloutsCount := 0 }
            else s.log) := by
            split
            · rename_i hnull
              obtain ⟨hopen, hkeeps⟩ := Logging.create_spec henv hnull centTimeoutSource
                (f.thermalcent.tempTimeout.setWidth 32) 0
              exact ⟨hopen, hkeeps, by rw [if_pos hnull]⟩
            · rename_i hnull
              exact ⟨h.ready.resolve_left hnull, .refl _, by rw [if_neg hnull]⟩
          obtain ⟨hfilling, hkeeps, hmentions⟩ := h.part henv (by decide) hens (f.config.centHuid cent)
          exact ⟨hfilling, accounts_cent hkeeps hmentions⟩
  · exact hsame

theorem centTimeoutCents_spec (henv : f.logs.Clear) (needInc : BitVec 16) (cents : List Nat) {s : CentTimeout}
    (h : s.log.Filling) :
    (centTimeoutCents f needInc cents s).log.Filling ∧ s.Accounts f (centTimeoutCents f needInc cents s) := by
  induction cents generalizing s with
  | nil => exact ⟨h, .refl _ _ _⟩
  | cons cent cents ih =>
    obtain ⟨hfilling, hacc⟩ := centTimeoutCent_spec henv needInc cent h
    unfold centTimeoutCents
    dsimp only
    split
    · exact ⟨hfilling, hacc⟩
    · obtain ⟨hfilling', hacc'⟩ := ih hfilling
      exact ⟨hfilling', Amec.Accounts.trans hacc hacc'⟩

theorem procTempLog_spec (henv : f.logs.Clear) :
    ∃ e ∈ (procTempLog f).committed, e.Mentions (f.config.procHuid.setWidth 64) := by
  obtain ⟨hopen, -⟩ := Logging.create_spec (l := .start) henv rfl procTempSource 0 (f.thermalproc.sampleMax.setWidth 32)
  obtain ⟨hopen, -, -⟩ := Logging.callout_spec hopen (by decide) overTemperatureCallout
  obtain ⟨hopen, -, hmentions⟩ := Logging.callout_spec hopen (by decide) (huidCallout (f.config.procHuid.setWidth 64))
  obtain ⟨hnull, hkeeps⟩ := Logging.commit_spec henv hopen
  exact (hkeeps _ (hmentions rfl)).committed hnull

end

/-! ## Runs of the checks -/

section
variable {h h' : Health} {f : Finds}

theorem Health.CalloutsComplete.add (hc : h.CalloutsComplete) (logs : List ErrlEntry)
    (hlogs : h'.committed = h.committed ++ logs.map (f.config, ·))
    (hmarks : ∀ fru, h'.Marked fru → h.Marked fru ∨ ∃ e ∈ logs, e.Mentions (fru.huid f.config)) :
    h'.CalloutsComplete := by
  intro fru hm
  unfold Health.CalledOut
  rw [hlogs]
  obtain hold | ⟨e, he, hmentions⟩ := hmarks fru hm
  · obtain ⟨l, hl, hmentions⟩ := hc fru hold
    exact ⟨l, List.mem_append_left _ hl, hmentions⟩
  · exact ⟨(f.config, e), List.mem_append_right _ (List.mem_map_of_mem he), hmentions⟩

theorem Health.CalloutsComplete.dimmTemp (hc : h.CalloutsComplete) (hok : h.Ok (.dimmTemp, f)) :
    (h.dimmTemp f).CalloutsComplete := by
  refine hc.add _ rfl fun fru hm => ?_
  cases fru with
  | dimm port dimm =>
    obtain hm | hm := hm
    · exact (dimmTemp_spec hok.1 hok.2 (port, dimm) hm).imp_left .inl
    · exact .inl (.inr hm)
  | cent cent => exact .inl hm
  | proc => exact .inl hm

theorem Health.CalloutsComplete.centTemp (hc : h.CalloutsComplete) (hok : h.Ok (.centTemp, f)) :
    (h.centTemp f).CalloutsComplete := by
  refine hc.add _ rfl fun fru hm => ?_
  cases fru with
  | dimm port dimm => exact .inl hm
  | cent cent =>
    obtain hm | hm := hm
    · exact (centTemp_spec hok.1 cent hm).imp_left .inl
    · exact .inl (.inr hm)
  | proc => exact .inl hm

theorem Health.CalloutsComplete.dimmTimeoutBody (hc : h.CalloutsComplete) (hok : h.Ok (.dimmTimeout, f)) :
    (h.dimmTimeoutBody f).CalloutsComplete := by
  refine hc.add _ rfl fun fru hm => ?_
  cases fru with
  | dimm port dimm =>
    obtain hm | hm := hm
    · exact .inl (.inl hm)
    · obtain ⟨hready, hacc⟩ := dimmTimeoutPorts_spec (s := h.dimmTimeoutStart) hok.1 List.nodup_range
        (fun _ _ => ⟨rfl, rfl⟩) (.inl ⟨rfl, rfl, by simpa [Health.dimmTimeoutStart] using hok.2⟩)
      exact (Accounts.committed hok.1 hacc hready (port, dimm) hm).imp_left .inr
  | cent cent => exact .inl hm
  | proc => exact .inl hm

theorem Health.CalloutsComplete.dimmTimeout (hc : h.CalloutsComplete) (hok : h.Ok (.dimmTimeout, f)) :
    (h.dimmTimeout f).CalloutsComplete := by
  unfold Health.dimmTimeout
  dsimp only
  split
  · exact hc
  · exact hc.dimmTimeoutBody hok

theorem Health.CalloutsComplete.centTimeout (hc : h.CalloutsComplete) (hok : h.Ok (.centTimeout, f)) :
    (h.centTimeout f).CalloutsComplete := by
  unfold Health.centTimeout
  dsimp only
  split
  · exact hc
  · refine hc.add _ rfl fun fru hm => ?_
    cases fru with
    | dimm port dimm => exact .inl hm
    | cent cent =>
      obtain hm | hm := hm
      · exact .inl (.inl hm)
      · obtain ⟨hfilling, hacc⟩ := centTimeoutCents_spec hok.1 f.centNeedInc (List.range maxNumCentaurs)
          (s := h.centTimeoutStart) (.inl rfl)
        exact (Accounts.committed hok.1 hacc hfilling.ready cent hm).imp_left .inr
    | proc => exact .inl hm

theorem Health.CalloutsComplete.procTemp (hc : h.CalloutsComplete) (hok : h.Ok (.procTemp, f)) :
    (h.procTemp f).CalloutsComplete := by
  unfold Health.procTemp
  dsimp only
  split
  · split
    · split
      · exact hc
      · refine hc.add _ rfl fun fru hm => ?_
        cases fru with
        | dimm port dimm => exact .inl hm
        | cent cent => exact .inl hm
        | proc => exact .inr (procTempLog_spec hok.1)
    · exact hc
  · exact hc

end

theorem Health.CalloutsComplete.step {h h' : Health} {e : Check × Finds} (hc : h.CalloutsComplete) (hok : h.Ok e)
    (hs : h.step e h') : h'.CalloutsComplete := by
  obtain ⟨c, f⟩ := e
  unfold Health.step Health.run at hs
  cases c with
  | dimmTemp => exact hs ▸ hc.dimmTemp hok
  | dimmTimeout => exact hs ▸ hc.dimmTimeout hok
  | centTemp => exact hs ▸ hc.centTemp hok
  | centTimeout => exact hs ▸ hc.centTimeout hok
  | procTemp => exact hs ▸ hc.procTemp hok

theorem calloutsComplete_start : Health.start.CalloutsComplete := by
  rintro (⟨port, dimm⟩ | cent | _) hm
  · simp [Health.Marked, Health.start, on_zero] at hm
  · simp [Health.Marked, Health.start, on_zero] at hm
  · simp [Health.Marked, Health.start] at hm

theorem run_calloutsComplete {h : Health} {es : List (Check × Finds)}
    (hr : Run (Guarded Health.Ok Health.step) .start es h) : h.CalloutsComplete :=
  hr.invariant (P := Health.CalloutsComplete) (fun _ _ _ hc hs => hc.step hs.1 hs.2) calloutsComplete_start

/-- A Cumulus system with eight DIMMs behind each Centaur, which time out with the first reading that does not come. -/
def cumulusFinds (overtemp enabled : DimmFlags) : Finds :=
  { config := ⟨.cumulus, fun cent => .ofNat 32 (cent + 1), fun cent dimm => .ofNat 32 (0x100 + 8 * cent + dimm), 0x1000⟩
    thermaldimm := ⟨85, 1, 90⟩
    thermalmcdimm := ⟨85, 1, 90⟩
    thermalpmic := ⟨85, 1, 90⟩
    thermalmcext := ⟨85, 1, 90⟩
    thermalcent := ⟨85, 1, 90⟩
    thermalproc := ⟨85, 1, 90⟩
    procTemp := 60
    tempFruType := fun _ _ => .dimm
    dtsTypeMask := fun _ _ => 1
    dimmOvertemp := overtemp
    dimmTempUpdated := fun _ => 0
    dimmEnabled := enabled
    centOvertemp := 0
    centTempUpdated := 0
    presentCentaurs := 0
    gpe1NotIdle := 0
    logs := ⟨fun _ => 0, fun _ => false, fun _ => false⟩ }

theorem cumulusFinds_clear (overtemp enabled : DimmFlags) : (cumulusFinds overtemp enabled).logs.Clear :=
  ⟨fun _ => show (getErrSlotNum .predictive 0).isSome by decide, fun _ => ⟨rfl, rfl⟩⟩

/-- Only the first port. -/
def firstPort (b : BitVec 8) : DimmFlags := fun port => if port = 0 then b else 0

theorem run_calloutsComplete_dimms : ∃ h,
    Run (Guarded Health.Ok Health.step) .start
      [(.dimmTimeout, cumulusFinds (firstPort 0) (firstPort 0xFC)), (.dimmTemp, cumulusFinds (firstPort 0x1F) (firstPort 0))] h ∧
    h.CalloutsComplete ∧ h.Marked (.dimm 0 0) ∧ h.Marked (.dimm 0 7) :=
  have hr : Run (Guarded Health.Ok Health.step) .start
      [(.dimmTimeout, cumulusFinds (firstPort 0) (firstPort 0xFC)), (.dimmTemp, cumulusFinds (firstPort 0x1F) (firstPort 0))] _ :=
    .cons ⟨⟨cumulusFinds_clear _ _, by decide⟩, rfl⟩ (.cons ⟨⟨cumulusFinds_clear _ _, by decide⟩, rfl⟩ (.nil _))
  ⟨_, hr, run_calloutsComplete hr, by decide, by decide⟩

/-- Six DIMMs of a port over temperature: the last is marked and in no log. -/
theorem not_calloutsComplete_six : ∃ h,
    Run Health.step .start [(.dimmTemp, cumulusFinds (firstPort 0xFC) (firstPort 0))] h ∧
    h.Marked (.dimm 0 5) ∧ ¬h.CalledOut (.dimm 0 5) ∧ ¬h.CalloutsComplete := by
  have hm : (Health.start.run .dimmTemp (cumulusFinds (firstPort 0xFC) (firstPort 0))).Marked (.dimm 0 5) := by decide
  have hc : ¬(Health.start.run .dimmTemp (cumulusFinds (firstPort 0xFC) (firstPort 0))).CalledOut (.dimm 0 5) := by
    unfold Health.CalledOut
    decide
  exact ⟨_, .single rfl, hm, hc, fun hcomplete => hc (hcomplete _ hm)⟩

end Occ.Amec
