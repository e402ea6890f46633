/-
The law of the memory power control: one turn by its outcome, the turns of a transition by an invariant that knows how many
ticks the transition still takes, and the runs.
-/
import Occ.Mem.PowerControl

namespace Occ.Mem

open Occ Transition Gpe1

variable {s t : MemPower} {x y : PowerRun} {e : PowerEvent} {ok : Bool} {rc : PowerRc}

/-! ## One turn -/

theorem turn_frame (s : MemPower) (ok : Bool) :
    ∃ args idle, (s.turn ok).1 = { s with args := args, requestIdle := idle } := by
  unfold MemPower.turn
  split
  · unfold MemPower.gpeMemPowerControl
    split
    · exact ⟨_, _, rfl⟩
    · split
      · exact ⟨_, _, rfl⟩
      · dsimp only
        split <;> exact ⟨_, _, rfl⟩
  · exact ⟨_, _, rfl⟩

theorem turn_inFlight (h : s.requestIdle = false) : (s.turn ok).1 = s := by
  unfold MemPower.turn
  split
  · unfold MemPower.gpeMemPowerControl
    rw [if_pos h]
  · rfl

theorem mca_of_index (m : Nat) : 4 * (m >>> 2) + (m &&& 3) = m := by
  have hand : m &&& 3 = m % 4 := Nat.and_two_pow_sub_one_eq_mod m 2
  rw [hand, Nat.shiftRight_eq_div_pow]
  omega

theorem turn_configured (hc : s.configured s.memIndex = true) (hidle : s.requestIdle = true) :
    (s.args.error.rc = gpeRcSuccess ∧ ((ok = true ∧ (s.turn ok).2 = .success ∧ (s.turn ok).1.args.mca = s.memIndex ∧
        (s.turn ok).1.args.memPwrCtl = s.currentMemPwrCtl) ∨ (ok = false ∧ (s.turn ok).2 = .scheduleFailure))) ∨
      (s.args.error.rc ≠ gpeRcSuccess ∧ (s.turn ok).2 = .rcFailure) := by
  unfold MemPower.turn
  rw [if_pos hc]
  unfold MemPower.gpeMemPowerControl
  rw [if_neg (by rw [hidle]; decide)]
  by_cases herr : s.args.error.rc = gpeRcSuccess
  · rw [if_neg (not_not.2 herr)]
    refine .inl ⟨herr, ?_⟩
    cases ok with
    | true => exact .inl ⟨rfl, rfl, mca_of_index _, rfl⟩
    | false => exact .inr ⟨rfl, rfl⟩
  · rw [if_pos herr]
    exact .inr ⟨herr, rfl⟩

/-- A turn that is fair to its MCA. -/
def Turn.Ok (setting : BitVec 8) (u : Turn) : Prop := u.configured = true →
  u.sent = some (u.mca, setting) ∨ u.rc = .taskNotIdle ∨ u.rc = .scheduleFailure

/-- A turn is fair where it finds no error of the last request, and only there. -/
theorem turnOf_ok : (PowerRun.turnOf s (s.turn ok).1 (s.turn ok).2).Ok s.currentMemPwrCtl ↔
    (s.configured s.memIndex = true → s.requestIdle = true → s.args.error.rc = gpeRcSuccess) := by
  unfold Turn.Ok PowerRun.turnOf
  dsimp only
  refine forall_congr' fun hc => ?_
  cases hidle : s.requestIdle with
  | false =>
    have hrc : (s.turn ok).2 = .taskNotIdle := by
      unfold MemPower.turn
      rw [if_pos hc]
      unfold MemPower.gpeMemPowerControl
      rw [if_pos hidle]
    exact ⟨fun _ h => absurd h (by decide), fun _ => .inr (.inl hrc)⟩
  | true =>
    obtain ⟨herr, ⟨-, hrc, hmca, hset⟩ | ⟨-, hrc⟩⟩ | ⟨herr, hrc⟩ := @turn_configured s ok hc hidle
    · refine ⟨fun _ _ => herr, fun _ => .inl ?_⟩
      rw [if_pos ⟨hc, hrc⟩, hmca, hset]
    · exact ⟨fun _ _ => herr, fun _ => .inr (.inr hrc)⟩
    · rw [hrc, if_neg (by rintro ⟨-, h⟩; cases h)]
      constructor
      · rintro (h | h | h) <;> cases h
      · intro h
        exact absurd (h rfl) herr

theorem fair_append {tr : PowerTransition} {u : Turn} (hu : u.mca = tr.turns.length) :
    PowerTransition.Fair { tr with turns := tr.turns ++ [u] } ↔ tr.Fair ∧ u.Ok tr.setting := by
  constructor
  · rintro ⟨honce, hsent⟩
    refine ⟨⟨?_, fun v hv => hsent v (List.mem_append_left _ hv)⟩, hsent u (List.mem_append_right _ (List.mem_singleton_self u))⟩
    rw [List.map_append, List.length_append, List.length_singleton, List.range_succ] at honce
    exact (List.append_inj honce (by rw [List.length_map, List.length_range])).1
  · rintro ⟨⟨honce, hsent⟩, hok⟩
    refine ⟨?_, fun v hv => ?_⟩
    · rw [List.map_append, honce, List.length_append, List.length_singleton, List.range_succ, List.map_singleton, hu]
    · obtain hv | hv := List.mem_append.1 hv
      · exact hsent v hv
      · rw [List.mem_singleton.1 hv]
        exact hok

/-! ## Transitions -/

/-- The ticks that the transition in progress still takes, at most. -/
def MemPower.left (s : MemPower) : Nat :=
  if s.memoryPowerControlInProgress then 2 * (numNimbusMcas - s.memIndex) - s.waitIdleGpe else 0

/-- A transition in progress, before the turn of an MCA. -/
structure Underway (s : MemPower) (tr : PowerTransition) : Prop where
  inProgress : s.memoryPowerControlInProgress = true
  index : s.memIndex < numNimbusMcas
  wait : s.waitIdleGpe ≤ waitGpeMemPwrCtrlBusyLimit
  setting : tr.setting = s.currentMemPwrCtl
  turns : tr.turns.length = s.memIndex
  fair : tr.Fair

structure PowerInv (x : PowerRun) : Prop where
  resting : x.s.memoryPowerControlInProgress = false → x.s.memIndex = 0 ∧ x.s.waitIdleGpe = 0 ∧ x.now = none ∧
    (x.made.head?.map (·.setting) = some x.s.currentMemPwrCtl ∨ (x.made = [] ∧ x.s.currentMemPwrCtl = memPwrCtlNoSupport))
  underway : x.s.memoryPowerControlInProgress = true → ∃ tr, x.now = some tr ∧ Underway x.s tr
  made : ∀ tr ∈ x.made, tr.Fair ∧ tr.turns.length = numNimbusMcas
  /-- A transition to another setting is in progress, or one begins at the next tick. -/
  unsettled : x.s.currentMemPwrCtl ≠ x.wanted → x.same + x.s.left ≤ 16
  settling : x.s.currentMemPwrCtl = x.wanted → x.s.memoryPowerControlInProgress = true → x.same + x.s.left ≤ 32

theorem Underway.left_pos {tr : PowerTransition} (h : Underway s tr) : 1 ≤ s.left ∧ s.left ≤ 16 := by
  have hindex := h.index
  have hwait := h.wait
  unfold MemPower.left
  rw [if_pos h.inProgress]
  unfold numNimbusMcas waitGpeMemPwrCtrlBusyLimit at *
  omega

theorem PowerInv.law (h : PowerInv x) : PowerLaw x := by
  refine ⟨fun tr htr => ?_, h.made, fun hsame => ?_⟩
  · cases hp : x.s.memoryPowerControlInProgress with
    | false =>
      rw [(h.resting hp).2.2.1] at htr
      cases htr
    | true =>
      obtain ⟨tr', htr', hunder⟩ := h.underway hp
      rw [htr'] at htr
      cases htr
      exact hunder.fair
  · unfold settlingTicks at hsame
    have hcurrent : x.s.currentMemPwrCtl = x.wanted := by
      by_contra hne
      have hle := h.unsettled hne
      omega
    have hrest : x.s.memoryPowerControlInProgress = false := by
      rw [← Bool.not_eq_true]
      intro hp
      obtain ⟨tr, -, hunder⟩ := h.underway hp
      have hle := h.settling hcurrent hp
      have hpos := hunder.left_pos
      omega
    refine ⟨hrest, hcurrent, ?_⟩
    rw [← hcurrent]
    exact (h.resting hrest).2.2.2

/-! ## A tick -/

/-- The turn of an MCA is over, or it waits for one more tick. -/
inductive Advanced (s t : MemPower) (rc : PowerRc) : Prop
  | waits (hno : s.passes rc = false) (h : t = { s with waitIdleGpe := s.waitIdleGpe + 1 })
      (hwait : t.waitIdleGpe ≤ waitGpeMemPwrCtrlBusyLimit)
  | next (hyes : s.passes rc = true) (h : t = { s with memIndex := s.memIndex + 1, waitIdleGpe := 0 })
      (hindex : t.memIndex < numNimbusMcas)
  | ends (hyes : s.passes rc = true) (hlast : s.memIndex + 1 = numNimbusMcas)
      (h : t = { s with memoryPowerControlInProgress := false, memIndex := 0, waitIdleGpe := 0 })

theorem advance_cases (hindex : s.memIndex < numNimbusMcas) : Advanced s (s.advance rc) rc := by
  unfold MemPower.advance
  cases hp : s.passes rc with
  | true =>
    rw [if_pos rfl]
    dsimp only
    split
    · rename_i hlast
      exact .ends hp (by omega) rfl
    · rename_i hmore
      exact .next hp rfl (Nat.lt_of_not_ge hmore)
  | false =>
    rw [if_neg Bool.false_ne_true]
    dsimp only
    rw [if_neg (by omega)]
    refine .waits hp rfl ?_
    unfold MemPower.passes at hp
    rw [decide_eq_false_iff_not, not_or] at hp
    exact Nat.lt_of_not_ge hp.2

theorem latch_cases (s : MemPower) : (s.latch = s ∧ (s.memoryPowerControlInProgress = true ∨ s.newMemPwrCtl = s.currentMemPwrCtl)) ∨
    (s.memoryPowerControlInProgress = false ∧ s.newMemPwrCtl ≠ s.currentMemPwrCtl ∧
      s.latch = { s with memoryPowerControlInProgress := true, currentMemPwrCtl := s.newMemPwrCtl }) := by
  unfold MemPower.latch
  split
  · rename_i hnew
    exact .inr ⟨hnew.1, hnew.2, rfl⟩
  · rename_i hno
    refine .inl ⟨rfl, ?_⟩
    cases hp : s.memoryPowerControlInProgress with
    | true => exact .inl rfl
    | false => exact .inr (not_not.1 fun hne => hno ⟨hp, hne⟩)

theorem PowerInv.begun (h : PowerInv x) (hp : x.s.latch.memoryPowerControlInProgress = true) :
    Underway x.s.latch (x.begun x.s.latch) := by
  obtain ⟨heq, -⟩ | ⟨hrest, -, heq⟩ := latch_cases x.s
  · rw [heq] at hp ⊢
    obtain ⟨tr, hnow, hunder⟩ := h.underway hp
    unfold PowerRun.begun
    rw [hnow]
    exact hunder
  · obtain ⟨hindex, hwait, hnow, -⟩ := h.resting hrest
    unfold PowerRun.begun
    rw [hnow, heq]
    refine ⟨rfl, ?_, ?_, rfl, hindex.symm, ⟨rfl, nofun⟩⟩
    · dsimp only
      rw [hindex]
      decide
    · dsimp only
      rw [hwait]
      decide

/-- The ticks in a row that have asked for the setting, with this one. -/
def PowerRun.sameNext (x : PowerRun) : Nat := if x.s.newMemPwrCtl = x.wanted then x.same + 1 else 1

/-- The time that is left when the MCA gets its turn. -/
theorem PowerInv.time (h : PowerInv x) (hp : x.s.latch.memoryPowerControlInProgress = true) :
    (x.s.latch.currentMemPwrCtl ≠ x.s.newMemPwrCtl → x.sameNext + x.s.latch.left ≤ 17) ∧
      (x.s.latch.currentMemPwrCtl = x.s.newMemPwrCtl → x.sameNext + x.s.latch.left ≤ 33) := by
  have hleft := (h.begun hp).left_pos
  unfold PowerRun.sameNext
  by_cases hsame : x.s.newMemPwrCtl = x.wanted
  · rw [if_pos hsame]
    obtain ⟨heq, -⟩ | ⟨hrest, hnew, heq⟩ := latch_cases x.s
    · rw [heq] at hp hleft ⊢
      rw [hsame]
      refine ⟨fun hne => ?_, fun heq => ?_⟩
      · have hle := h.unsettled hne
        omega
      · have hle := h.settling heq hp
        omega
    · have hle := h.unsettled fun hcur => hnew (hsame.trans hcur.symm)
      refine ⟨fun hne => absurd ?_ hne, fun _ => ?_⟩
      · rw [heq]
      · omega
  · rw [if_neg hsame]
    exact ⟨fun _ => by omega, fun _ => by omega⟩

theorem tick_resting (hp : x.s.latch.memoryPowerControlInProgress = false) :
    x.tick ok = { x with wanted := x.s.newMemPwrCtl, same := x.sameNext } ∧ x.s.memoryPowerControlInProgress = false ∧
      x.s.newMemPwrCtl = x.s.currentMemPwrCtl := by
  obtain ⟨heq, hor⟩ | ⟨-, -, heq⟩ := latch_cases x.s
  · rw [heq] at hp
    have hsame : x.s.amecMemPowerControl ok = x.s := by
      unfold MemPower.amecMemPowerControl
      rw [heq]
      dsimp only
      rw [if_neg (by rw [hp]; decide)]
    refine ⟨?_, hp, hor.resolve_left (by rw [hp]; decide)⟩
    unfold PowerRun.tick
    rw [heq, hsame]
    dsimp only
    rw [if_neg (by rw [hp]; decide)]
    rfl
  · rw [heq] at hp
    cases hp

/-- The transition after the turn of an MCA. -/
def PowerRun.after (x : PowerRun) (ok : Bool) : PowerTransition :=
  if x.s.latch.passes (x.s.latch.turn ok).2 then
    { x.begun x.s.latch with
      turns := (x.begun x.s.latch).turns ++ [PowerRun.turnOf x.s.latch (x.s.latch.turn ok).1 (x.s.latch.turn ok).2] }
  else x.begun x.s.latch

theorem tick_underway (hp : x.s.latch.memoryPowerControlInProgress = true) :
    ∃ t, t = (x.s.latch.turn ok).1.advance (x.s.latch.turn ok).2 ∧ x.tick ok =
      if t.memoryPowerControlInProgress then ⟨t, some (x.after ok), x.made, x.s.newMemPwrCtl, x.sameNext⟩
      else ⟨t, none, x.after ok :: x.made, x.s.newMemPwrCtl, x.sameNext⟩ := by
  have hcode : x.s.amecMemPowerControl ok = (x.s.latch.turn ok).1.advance (x.s.latch.turn ok).2 := if_pos hp
  refine ⟨_, rfl, ?_⟩
  unfold PowerRun.tick
  dsimp only
  rw [if_pos hp, hcode]
  rfl

theorem latch_frame (s : MemPower) : s.latch.configured = s.configured ∧ s.latch.memIndex = s.memIndex ∧
    s.latch.requestIdle = s.requestIdle ∧ s.latch.args = s.args := by
  unfold MemPower.latch
  split <;> exact ⟨rfl, rfl, rfl, rfl⟩

theorem PowerInv.after_fair (h : PowerInv x) (hp : x.s.latch.memoryPowerControlInProgress = true)
    (hpass : x.s.latch.passes (x.s.latch.turn ok).2 = true) : (x.after ok).Fair ↔ PowerOk x (.tick ok) := by
  have hunder := h.begun hp
  obtain ⟨hconf, hindex, hidle, hargs⟩ := latch_frame x.s
  unfold PowerRun.after
  rw [if_pos hpass, fair_append hunder.turns.symm, hunder.setting, turnOf_ok, hconf, hindex, hidle, hargs]
  constructor
  · rintro ⟨-, hturn⟩ -
    exact hturn
  · intro hok
    exact ⟨hunder.fair, hok hp⟩

/-- What a tick of a transition leads to. -/
inductive Goes (tr : PowerTransition) (t : MemPower) : Prop
  | on (h : Underway t tr)
  | over (hrest : t.memoryPowerControlInProgress = false) (hindex : t.memIndex = 0) (hwait : t.waitIdleGpe = 0)
      (hlength : tr.turns.length = numNimbusMcas) (hfair : tr.Fair)

theorem PowerInv.goes (h : PowerInv x) (hok : PowerOk x (.tick ok)) (hp : x.s.latch.memoryPowerControlInProgress = true)
    {t : MemPower} (ht : t = (x.s.latch.turn ok).1.advance (x.s.latch.turn ok).2) :
    Goes (x.after ok) t ∧ (x.after ok).setting = t.currentMemPwrCtl ∧ t.currentMemPwrCtl = x.s.latch.currentMemPwrCtl ∧
      t.left + 1 ≤ x.s.latch.left := by
  have hunder := h.begun hp
  have hfair : x.s.latch.passes (x.s.latch.turn ok).2 = true → (x.after ok).Fair := fun hpass => (h.after_fair hp hpass).2 hok
  have hleft := hunder.left_pos
  obtain ⟨-, hindex, hwait, hsetting, hturns, hbegun⟩ := hunder
  obtain ⟨args, idle, hframe⟩ := turn_frame x.s.latch ok
  have hafter : x.after ok = if x.s.latch.passes (x.s.latch.turn ok).2 then { x.begun x.s.latch with
      turns := (x.begun x.s.latch).turns ++ [PowerRun.turnOf x.s.latch (x.s.latch.turn ok).1 (x.s.latch.turn ok).2] }
      else x.begun x.s.latch := rfl
  generalize (x.s.latch.turn ok).2 = rc at *
  generalize (x.s.latch.turn ok).1 = m at *
  generalize x.s.latch = l at *
  generalize x.after ok = tr at *
  have hcases := @advance_cases m rc (by rw [hframe]; exact hindex)
  rw [← ht] at hcases
  subst hframe
  unfold MemPower.left at hleft ⊢
  rw [if_pos hp] at hleft ⊢
  unfold waitGpeMemPwrCtrlBusyLimit at hwait
  cases hcases with
  | waits hno heq hbound =>
    rw [if_neg (by rw [show l.passes rc = false from hno]; decide)] at hafter
    rw [hafter, heq]
    rw [heq] at hbound
    refine ⟨.on ⟨hp, hindex, hbound, hsetting, hturns, hbegun⟩, hsetting, rfl, ?_⟩
    dsimp only
    rw [if_pos hp]
    omega
  | next hyes heq hbound =>
    have hpass : l.passes rc = true := hyes
    rw [if_pos hpass] at hafter
    rw [heq] at hbound ⊢
    refine ⟨.on ⟨hp, hbound, Nat.zero_le _, ?_, ?_, hfair hpass⟩, ?_, rfl, ?_⟩
    · rw [hafter]
      exact hsetting
    · rw [hafter]
      dsimp only
      rw [List.length_append, hturns, List.length_singleton]
    · rw [hafter]
      exact hsetting
    · dsimp only at hbound ⊢
      rw [if_pos hp]
      omega
  | ends hyes hlast heq =>
    have hpass : l.passes rc = true := hyes
    rw [if_pos hpass] at hafter
    rw [heq]
    refine ⟨.over rfl rfl rfl ?_ (hfair hpass), ?_, rfl, ?_⟩
    · rw [hafter]
      dsimp only
      rw [List.length_append, hturns, List.length_singleton]
      exact hlast
    · rw [hafter]
      exact hsetting
    · dsimp only
      rw [if_neg Bool.false_ne_true]
      omega

theorem PowerInv.tick (h : PowerInv x) (hok : PowerOk x (.tick ok)) : PowerInv (x.tick ok) := by
  cases hp : x.s.latch.memoryPowerControlInProgress with
  | false =>
    obtain ⟨heq, hrest, hcur⟩ := @tick_resting x ok hp
    rw [heq]
    exact ⟨h.resting, h.underway, h.made, fun hne => absurd hcur.symm hne,
      fun _ hbusy => absurd (hrest.symm.trans hbusy) (by decide)⟩
  | true =>
    obtain ⟨htime, htime'⟩ := h.time hp
    obtain ⟨t, ht, heq⟩ := @tick_underway x ok hp
    obtain ⟨hgoes, hsetting, hcur, hleft⟩ := h.goes hok hp ht
    rw [← hcur] at htime htime'
    rw [heq]
    rcases hgoes with hunder | ⟨hrest, hindex, hwait, hlength, hfair⟩
    · rw [if_pos hunder.inProgress]
      refine ⟨fun hrest => ?_, fun _ => ⟨_, rfl, hunder⟩, h.made, fun hne => ?_, fun heq _ => ?_⟩
      · exact absurd (hunder.inProgress.symm.trans hrest) (by decide)
      · have hle := htime hne
        dsimp only
        omega
      · have hle := htime' heq
        dsimp only
        omega
    · rw [if_neg (by rw [hrest]; decide)]
      refine ⟨fun _ => ⟨hindex, hwait, rfl, .inl (congrArg some hsetting)⟩, fun hbusy => ?_, fun tr htr => ?_, fun hne => ?_,
        fun _ hbusy => ?_⟩
      · exact absurd (hrest.symm.trans hbusy) (by decide)
      · obtain rfl | hmem := List.mem_cons.1 htr
        · exact ⟨hfair, hlength⟩
        · exact h.made tr hmem
      · have hle := htime hne
        dsimp only
        omega
      · exact absurd (hrest.symm.trans hbusy) (by decide)

/-! ## Runs -/

/-- The other events touch neither the transition nor the setting. -/
theorem PowerInv.frame (h : PowerInv x) (hp : t.memoryPowerControlInProgress = x.s.memoryPowerControlInProgress)
    (hindex : t.memIndex = x.s.memIndex) (hwait : t.waitIdleGpe = x.s.waitIdleGpe)
    (hcur : t.currentMemPwrCtl = x.s.currentMemPwrCtl) : PowerInv { x with s := t } := by
  have hleft : t.left = x.s.left := by
    unfold MemPower.left
    rw [hp, hindex, hwait]
  refine ⟨?_, ?_, h.made, ?_, ?_⟩ <;> dsimp only
  · rw [hp, hindex, hwait, hcur]
    exact h.resting
  · rw [hp]
    intro hbusy
    obtain ⟨tr, hnow, hunder⟩ := h.underway hbusy
    refine ⟨tr, hnow, hp.trans hunder.inProgress, ?_, ?_, ?_, ?_, hunder.fair⟩
    · rw [hindex]
      exact hunder.index
    · rw [hwait]
      exact hunder.wait
    · rw [hcur]
      exact hunder.setting
    · rw [hindex]
      exact hunder.turns
  · rw [hcur, hleft]
    exact h.unsettled
  · rw [hcur, hleft, hp]
    exact h.settling

theorem PowerInv.next (h : PowerInv x) (hok : PowerOk x e) (hn : x.next e = some y) : PowerInv y := by
  cases e with
  | tick ok =>
    cases hn
    exact h.tick hok
  | gpe scoms sends =>
    unfold PowerRun.next at hn
    dsimp only at hn
    split at hn
    · cases hn
    · cases hn
      exact h.frame rfl rfl rfl rfl
  | ips freq =>
    cases hn
    exact h.frame rfl rfl rfl rfl
  | memConfig ips default =>
    cases hn
    exact h.frame rfl rfl rfl rfl
  | throttleConfig mbas =>
    cases hn
    exact h.frame rfl rfl rfl rfl

theorem tick_inFlight (hidle : x.s.requestIdle = false) : (x.tick ok).s.args = x.s.args := by
  obtain ⟨-, -, hlatchIdle, hargs⟩ := latch_frame x.s
  have hs : (x.tick ok).s = x.s.amecMemPowerControl ok := by
    unfold PowerRun.tick
    dsimp only
    split
    · split <;> rfl
    · rfl
  rw [hs]
  unfold MemPower.amecMemPowerControl
  dsimp only
  split
  · rw [turn_inFlight (hlatchIdle.trans hidle), ← hargs]
    unfold MemPower.advance
    dsimp only
    split <;> split <;> rfl
  · exact hargs

/-- An event keeps the law if and only if it meets the condition. -/
theorem powerKeeps_iff (h : PowerInv x) (hn : x.next e = some y) : PowerKeeps x e ↔ PowerOk x e := by
  constructor
  · intro hkeeps
    cases e with
    | tick ok =>
      intro hp hc hidle
      have hlaw := (hkeeps _ rfl).1
      obtain ⟨hconf, hindex, hlatchIdle, hargs⟩ := latch_frame x.s
      have hpass : x.s.latch.passes (x.s.latch.turn ok).2 = true := by
        have hrc := @turn_configured x.s.latch ok (by rw [hconf, hindex]; exact hc) (hlatchIdle.trans hidle)
        unfold MemPower.passes
        refine decide_eq_true (.inl ?_)
        obtain ⟨-, ⟨-, hrc, -⟩ | ⟨-, hrc⟩⟩ | ⟨-, hrc⟩ := hrc <;> rw [hrc] <;> exact nofun
      have hfair : (x.after ok).Fair := by
        obtain ⟨t, -, heq⟩ := @tick_underway x ok hp
        rw [heq] at hlaw
        split at hlaw
        · exact hlaw.now _ rfl
        · exact (hlaw.made _ (List.mem_cons_self ..)).1
      exact (h.after_fair hp hpass).1 hfair hp hc hidle
    | _ => trivial
  · intro hok z hz
    refine ⟨(h.next hok hz).law, ?_⟩
    rintro ok rfl hidle
    cases hz
    exact tick_inFlight hidle

theorem boot_powerInv (regs : PowerRegs) : PowerInv (.boot regs) where
  resting _ := ⟨rfl, rfl, rfl, .inr ⟨rfl, rfl⟩⟩
  underway := nofun
  made := nofun
  unsettled hne := absurd rfl hne
  settling _ := nofun

/-- All events of a run keep the law if and only if they all meet the condition. -/
theorem powerLaw_run {regs : PowerRegs} {es : List PowerEvent} {z : PowerRun} :
    Run (Guarded PowerKeeps (StepOf PowerRun.next)) (.boot regs) es z ↔
      Run (Guarded PowerOk (StepOf PowerRun.next)) (.boot regs) es z :=
  run_guarded_congr_of (P := PowerInv) (fun _ _ _ hx hok hn => hx.next hok hn) (fun _ _ _ hx hn => powerKeeps_iff hx hn)
    (boot_powerInv regs)

/-- Two MCAs are configured. The request for the first one fails. -/
def failedRun : List PowerEvent :=
  [.memConfig memPwrCtlPowerDown memPwrCtlOff, .throttleConfig 0xC000, .tick true, .gpe ⟨1, 0, 0, 0⟩ true]

/-- What can be seen of a turn: is the MCA configured, the return code, and was a request sent? -/
def Turn.seen (u : Turn) : Bool × PowerRc × Bool := (u.configured, u.rc, u.sent.isSome)

/-- The second MCA is not sent the setting, and after Idle Power Save is entered neither of them is sent the next one. -/
theorem failure_blocks : ∃ z tr, exec PowerRun.next (.boot ⟨fun _ => 0, fun _ => 0⟩)
      (failedRun ++ List.replicate 7 (.tick true) ++ .ips 2000 :: List.replicate 2 (.tick true)) = some z ∧
    z.now = some tr ∧ tr.setting = memPwrCtlPowerDown ∧
    tr.turns.map Turn.seen = [(true, .rcFailure, false), (true, .rcFailure, false)] ∧ ¬PowerLaw z := by
  have hseen : (exec PowerRun.next (.boot ⟨fun _ => 0, fun _ => 0⟩)
      (failedRun ++ List.replicate 7 (.tick true) ++ .ips 2000 :: List.replicate 2 (.tick true))).bind
        (fun z => z.now.map fun tr => (tr.setting, tr.turns.map Turn.seen)) =
      some (memPwrCtlPowerDown, [(true, .rcFailure, false), (true, .rcFailure, false)]) := by
    decide
  obtain ⟨z, hz, hseen⟩ := Option.bind_eq_some_iff.1 hseen
  obtain ⟨tr, hnow, htr⟩ := Option.map_eq_some_iff.1 hseen
  obtain ⟨hsetting, hturns⟩ := Prod.mk.inj htr
  refine ⟨z, tr, hz, hnow, hsetting, hturns, fun hlaw => ?_⟩
  obtain ⟨u, hu, heq⟩ := List.mem_map.1 (hturns ▸ List.mem_cons_self .. : (true, PowerRc.rcFailure, false) ∈ tr.turns.map Turn.seen)
  obtain ⟨hc, heq⟩ := Prod.mk.inj heq
  obtain ⟨hrc, hsent⟩ := Prod.mk.inj heq
  obtain h | h | h := (hlaw.now tr hnow).sent u hu hc
  · rw [h] at hsent
    cases hsent
  · rw [hrc] at h
    cases h
  · rw [hrc] at h
    cases h

end Occ.Mem
