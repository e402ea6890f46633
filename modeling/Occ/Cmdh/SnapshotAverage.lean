/-
The average power of an interval of a snapshot, over whole runs: the differences of the accumulator and of the update tag are one
too small when the counter wrapped, and the average is the mean of the interval if and only if that does not show in the quotient.
-/
import Occ.Cmdh.SnapshotLaw
import Occ.Sensor.SensorLaw

namespace Occ.Cmdh

open Sensor

/-! ## Quotients -/

section
variable {a d e q y : Nat}

theorem add_div_eq_iff (he : 0 < e) : (q * e + y) / e = q ↔ y < e := by
  rw [Nat.mul_comm, Nat.mul_add_div he]
  constructor
  · intro h
    exact (Nat.div_eq_zero_iff_lt he).1 (by omega)
  · intro h
    rw [Nat.div_eq_of_lt h, Nat.add_zero]

theorem eq_quotient_mul_pred (hd : 0 < d) : a = a / d * (d - 1) + (a / d + a % d) := by
  have hsplit : d * (a / d) + a % d = a := Nat.div_add_mod a d
  obtain ⟨e, rfl⟩ : ∃ e, d = e + 1 := ⟨d - 1, by omega⟩
  rw [Nat.add_sub_cancel, ← Nat.add_assoc, ← Nat.mul_succ, Nat.mul_comm]
  exact hsplit.symm

theorem pred_div_eq_iff (ha : 0 < a) : (a - 1) / d = a / d ↔ a % d ≠ 0 := by
  obtain rfl | hd := Nat.eq_zero_or_pos d
  · rw [Nat.div_zero, Nat.div_zero, Nat.mod_zero]
    exact iff_of_true rfl ha.ne'
  have hsplit : a / d * d + a % d = a := Nat.div_add_mod' a d
  constructor
  · intro heq hzero
    have hle : a / d * d ≤ a - 1 := heq ▸ Nat.div_mul_le_self (a - 1) d
    omega
  · intro hne
    have hform : a - 1 = a / d * d + (a % d - 1) := by omega
    rw [hform, add_div_eq_iff hd]
    have hlt := Nat.mod_lt a hd
    omega

theorem div_pred_eq_iff (hd : 1 < d) : a / (d - 1) = a / d ↔ a / d + a % d + 1 < d := by
  rw [show a / (d - 1) = (a / d * (d - 1) + (a / d + a % d)) / (d - 1) from
    congrArg (· / (d - 1)) (eq_quotient_mul_pred (by omega)), add_div_eq_iff (by omega)]
  omega

theorem pred_div_pred_eq_iff (ha : 0 < a) (hd : 1 < d) : (a - 1) / (d - 1) = a / d ↔ a / d + a % d < d := by
  have hsplit : d * (a / d) + a % d = a := Nat.div_add_mod a d
  have hpos : 0 < a / d + a % d := by
    obtain hquot | hquot := Nat.eq_zero_or_pos (a / d)
    · rw [hquot, Nat.mul_zero] at hsplit
      omega
    · exact Nat.add_pos_left hquot _
  have hform : a - 1 = a / d * (d - 1) + (a / d + a % d - 1) := by
    have hpred := @eq_quotient_mul_pred a d (by omega)
    omega
  rw [hform, add_div_eq_iff (by omega)]
  omega

end

/-! ## Intervals -/

/-- The accumulator and the update tag at the two ends of an interval. -/
structure Interval where
  prevAccum : BitVec 32
  prevTag : BitVec 32
  accum : BitVec 32
  tag : BitVec 32
deriving DecidableEq, Repr

namespace Interval

variable (i : Interval)

/-- The mean of the updates, with the differences modulo 2^32; 0 for an interval without updates. -/
def average : BitVec 32 := (i.accum - i.prevAccum) / (i.tag - i.prevTag)

/-- What the callback reports. -/
def reported : BitVec 32 :=
  if counterDiff i.tag i.prevTag = 0 then 0 else counterDiff i.accum i.prevAccum / counterDiff i.tag i.prevTag

/-- No counter wrapped, or a difference that is one too small has the same quotient. -/
def Ok : Prop :=
  let a := (i.accum - i.prevAccum).toNat
  let d := (i.tag - i.prevTag).toNat
  if i.accum < i.prevAccum then
    if i.tag < i.prevTag then a / d + a % d < d else a % d ≠ 0
  else if i.tag < i.prevTag then a = 0 ∨ a / d + a % d + 1 < d
  else True

instance : Decidable i.Ok := by
  unfold Ok
  infer_instance

end Interval

theorem counterDiff_of_le {now prev : BitVec 32} (h : ¬ now < prev) : counterDiff now prev = now - prev :=
  if_pos (BitVec.not_lt.1 h)

theorem toNat_counterDiff_of_lt {now prev : BitVec 32} (h : now < prev) :
    0 < (now - prev).toNat ∧ (counterDiff now prev).toNat = (now - prev).toNat - 1 := by
  have hlt : now.toNat < prev.toNat := h
  have hnow := now.isLt
  have hprev := prev.isLt
  unfold counterDiff
  rw [if_neg (BitVec.not_le.2 h), BitVec.toNat_add, BitVec.toNat_not, BitVec.toNat_sub]
  omega

theorem Interval.reported_eq_iff (i : Interval) : i.reported = i.average ↔ i.Ok := by
  have hreported : i.reported.toNat =
      (counterDiff i.accum i.prevAccum).toNat / (counterDiff i.tag i.prevTag).toNat := by
    unfold reported
    split_ifs with h
    · rw [h]
      exact (Nat.div_zero _).symm
    · exact BitVec.toNat_udiv
  have haverage : i.average.toNat = (i.accum - i.prevAccum).toNat / (i.tag - i.prevTag).toNat := BitVec.toNat_udiv
  rw [← BitVec.toNat_inj, hreported, haverage]
  unfold Ok
  dsimp only
  by_cases haccum : i.accum < i.prevAccum
  · obtain ⟨ha, haeq⟩ := toNat_counterDiff_of_lt haccum
    rw [if_pos haccum, haeq]
    by_cases htag : i.tag < i.prevTag
    · obtain ⟨hd, hdeq⟩ := toNat_counterDiff_of_lt htag
      rw [if_pos htag, hdeq]
      generalize (i.accum - i.prevAccum).toNat = a at *
      generalize (i.tag - i.prevTag).toNat = d at *
      obtain hone | hmore : d = 1 ∨ 1 < d := by omega
      · rw [hone, Nat.sub_self, Nat.div_zero, Nat.div_one, Nat.mod_one]
        omega
      · exact pred_div_pred_eq_iff ha hmore
    · rw [if_neg htag, counterDiff_of_le htag]
      exact pred_div_eq_iff ha
  · rw [if_neg haccum, counterDiff_of_le haccum]
    by_cases htag : i.tag < i.prevTag
    · obtain ⟨hd, hdeq⟩ := toNat_counterDiff_of_lt htag
      rw [if_pos htag, hdeq]
      generalize (i.accum - i.prevAccum).toNat = a at *
      generalize (i.tag - i.prevTag).toNat = d at *
      obtain hone | hmore : d = 1 ∨ 1 < d := by omega
      · rw [hone, Nat.sub_self, Nat.div_zero, Nat.div_one, Nat.mod_one]
        omega
      · rw [div_pred_eq_iff hmore]
        constructor
        · exact .inr
        · rintro (rfl | h)
          · rw [Nat.zero_div, Nat.zero_mod]
            exact hmore
          · exact h
    · rw [if_neg htag, counterDiff_of_le htag]
      exact iff_of_true rfl trivial

/-! ## Runs -/

/-- A division; by zero it has no result. -/
def divide {w : Nat} (a b : BitVec w) : Option (BitVec w) := if b = 0 then none else some (a / b)

/-- The globals with what a run has recorded. -/
structure AverageTrace where
  snapshots : Snapshots
  history : List CimpEntry
  /-- the counters at the last snapshot, or when the history started over -/
  prevAccum : BitVec 32
  prevTag : BitVec 32
  /-- every interval that was recorded, with its entry -/
  log : List (Interval × CimpEntry)

namespace AverageTrace

variable (t : AverageTrace)

def boot (array : Nat → SnapshotBuffer) (cimBuf : Nat → CimpEntry) (gsid : BitVec 16) (mini : Option (BitVec 16)) :
    AverageTrace :=
  ⟨.boot array cimBuf gsid mini, [], 0, 0, []⟩

/-- The interval up to now. -/
def interval : Interval := ⟨t.prevAccum, t.prevTag, t.snapshots.pwrAccum, t.snapshots.pwrsys.updateTag⟩

/-- The intervals and counters that an event notes. -/
def note : SnapshotEvent → (BitVec 32 × BitVec 32) × List (Interval × CimpEntry)
  | .callback state =>
    if t.snapshots.reset then ((t.snapshots.pwrAccum, t.snapshots.pwrsys.updateTag), t.log)
    else if Snapshots.operating state then
      ((t.snapshots.pwrAccum, t.snapshots.pwrsys.updateTag), t.log ++ [(t.interval, t.snapshots.newEntry)])
    else ((t.prevAccum, t.prevTag), t.log)
  | _ => ((t.prevAccum, t.prevTag), t.log)

def step (e : SnapshotEvent) : AverageTrace where
  snapshots := t.snapshots.step e
  history := t.snapshots.historyStep t.history e
  prevAccum := (t.note e).1.1
  prevTag := (t.note e).1.2
  log := (t.note e).2

def after (es : List SnapshotEvent) : AverageTrace := es.foldl step t

/-- What has been noted is what the globals hold, and what the callback computes from them. -/
structure Traced : Prop where
  prevAccum : t.snapshots.prevPwrAccum = t.prevAccum
  prevTag : t.snapshots.prevPwrUpdateTag = t.prevTag
  history : t.history <:+ t.log.map Prod.snd
  reported : ∀ p ∈ t.log, p.2.avgDc = p.1.reported

/-- The averages of the next callback: 0 in place of a division by zero. -/
structure Divides (s : Snapshots) : Prop where
  power : s.avgPwr = 0 ∨
    divide (counterDiff s.pwrAccum s.prevPwrAccum) (counterDiff s.pwrsys.updateTag s.prevPwrUpdateTag) = some s.avgPwr
  freq : s.avgFreq = 0 ∨
    (divide s.over30sec.freqaAccum s.over30sec.count).map (·.setWidth 16) = some s.avgFreq

/-- The history that the snapshots are taken from is the last part of what was recorded, every average in it is the mean of
its interval, and none is divided by zero. -/
structure AverageLaw : Prop where
  history : t.history <:+ t.log.map Prod.snd
  average : ∀ p ∈ t.log, p.2.avgDc = p.1.average
  divides : Divides t.snapshots

end AverageTrace

theorem divides (s : Snapshots) : AverageTrace.Divides s where
  power := by
    unfold Snapshots.avgPwr divide
    dsimp only
    split_ifs
    · exact .inl rfl
    · exact .inr rfl
  freq := by
    unfold Snapshots.avgFreq divide
    split_ifs
    · exact .inl rfl
    · exact .inr rfl

section
variable {t : AverageTrace}

theorem traced_callback (h : t.Traced) (state : Smgr.OccState) : (t.step (.callback state)).Traced := by
  obtain ⟨haccum, htag, hhistory, hreported⟩ := h
  unfold AverageTrace.step AverageTrace.note Snapshots.step Snapshots.cmdhSnapshotCallback Snapshots.historyStep
  dsimp only
  by_cases hreset : t.snapshots.reset = true
  · rw [if_pos hreset, if_pos hreset, if_pos hreset]
    exact ⟨rfl, rfl, List.nil_suffix, hreported⟩
  rw [if_neg hreset, if_neg hreset, if_neg hreset]
  by_cases hop : Snapshots.operating state = true
  · rw [if_pos hop, if_pos hop, if_pos hop]
    refine ⟨rfl, rfl, ?_, ?_⟩
    · obtain ⟨l, hl⟩ := hhistory
      refine ⟨l, ?_⟩
      rw [List.map_append, ← hl, List.append_assoc]
      rfl
    · rintro p hp
      obtain hp | hp := List.mem_append.1 hp
      · exact hreported p hp
      · obtain rfl := List.mem_singleton.1 hp
        show t.snapshots.avgPwr = _
        unfold Snapshots.avgPwr Interval.reported AverageTrace.interval
        rw [haccum, htag]
  · rw [if_neg hop, if_neg hop, if_neg hop]
    exact ⟨haccum, htag, hhistory, hreported⟩

theorem traced_step (h : t.Traced) (e : SnapshotEvent) : (t.step e).Traced := by
  cases e with
  | sample tod power freq => exact ⟨h.prevAccum, h.prevTag, h.history, h.reported⟩
  | sensor op => exact ⟨h.prevAccum, h.prevTag, h.history, h.reported⟩
  | callback state => exact traced_callback h state
  | sync dataLength version scheduleRc =>
    obtain ⟨haccum, htag, hhistory, hreported⟩ := h
    unfold AverageTrace.step AverageTrace.note Snapshots.step Snapshots.historyStep
    dsimp only
    by_cases hsync : Snapshots.Syncs dataLength version
    · rw [if_pos hsync, syncLaw.pending dataLength version scheduleRc hsync]
      exact ⟨haccum, htag, List.nil_suffix, hreported⟩
    · rw [if_neg hsync, syncLaw.refused dataLength version scheduleRc hsync]
      exact ⟨haccum, htag, hhistory, hreported⟩

theorem traced_after (h : t.Traced) (es : List SnapshotEvent) : (t.after es).Traced := by
  induction es generalizing t with
  | nil => exact h
  | cons e es ih => exact ih (traced_step h e)

theorem traced_boot {array : Nat → SnapshotBuffer} {cimBuf : Nat → CimpEntry} {gsid : BitVec 16}
    {mini : Option (BitVec 16)} : (AverageTrace.boot array cimBuf gsid mini).Traced :=
  ⟨rfl, rfl, List.nil_suffix, nofun⟩

end

/-- In every run from the start of the image, the averages are the means of their intervals if and only if no counter wrapped
in an interval where it shows. -/
theorem averageLaw_iff (array : Nat → SnapshotBuffer) (cimBuf : Nat → CimpEntry) (gsid : BitVec 16)
    (mini : Option (BitVec 16)) (es : List SnapshotEvent) :
    ((AverageTrace.boot array cimBuf gsid mini).after es).AverageLaw ↔
      ∀ p ∈ ((AverageTrace.boot array cimBuf gsid mini).after es).log, p.1.Ok := by
  obtain ⟨-, -, hhistory, hreported⟩ := traced_after (@traced_boot array cimBuf gsid mini) es
  constructor
  · rintro ⟨-, haverage, -⟩ p hp
    exact p.1.reported_eq_iff.1 ((hreported p hp).symm.trans (haverage p hp))
  · intro hok
    refine ⟨hhistory, ?_, divides _⟩
    rintro p hp
    exact (hreported p hp).trans (p.1.reported_eq_iff.2 (hok p hp))

/-! ## An accumulator that wraps -/

/-- The largest sample of the power. -/
def fullSample : SnapshotEvent := .sample 0 0xFFFF 0

def emptyBoot : AverageTrace := .boot (fun _ => .zero) (fun _ => .zero) 0 none

theorem after_fullSamples (n : Nat) :
    (emptyBoot.after (List.replicate n fullSample)).snapshots.pwrsys.opened.accumulator = BitVec.ofNat 64 (n * 65535) ∧
      (emptyBoot.after (List.replicate n fullSample)).snapshots.pwrsys.updateTag = BitVec.ofNat 32 n ∧
      (emptyBoot.after (List.replicate n fullSample)).snapshots.reset = true ∧
      (emptyBoot.after (List.replicate n fullSample)).log = [] := by
  induction n with
  | zero => exact ⟨accumulator_reset _, rfl, rfl, rfl⟩
  | succ n ih =>
    obtain ⟨haccum, htag, hreset, hlog⟩ := ih
    have hstep : emptyBoot.after (List.replicate (n + 1) fullSample) =
        (emptyBoot.after (List.replicate n fullSample)).step fullSample := by
      unfold AverageTrace.after
      rw [List.replicate_succ', List.foldl_append]
      rfl
    rw [hstep]
    generalize emptyBoot.after (List.replicate n fullSample) = t at *
    refine ⟨?_, ?_, hreset, hlog⟩
    · show ((t.snapshots.pwrsys.update 0 0xFFFF).opened).accumulator = _
      have hopened : (t.snapshots.pwrsys.update 0 0xFFFF).opened = t.snapshots.pwrsys.update 0 0xFFFF := by
        unfold SensorState.opened
        rw [if_neg (by rw [resetPending_update]; exact Bool.false_ne_true)]
      rw [hopened, accumulator_update, haccum, Nat.succ_mul, BitVec.ofNat_add]
      rfl
    · show (t.snapshots.pwrsys.update 0 0xFFFF).updateTag = _
      rw [updateTag_update, htag, BitVec.ofNat_add]
      rfl

theorem resetPending_fullSamples (n : Nat) :
    (emptyBoot.after (List.replicate (n + 1) fullSample)).snapshots.pwrsys.resetPending = false := by
  unfold AverageTrace.after
  rw [List.replicate_succ', List.foldl_append]
  exact resetPending_update _ 0 0xFFFF

/-- Full samples up to the first callback, then one more up to the second. -/
def wrapEvents (n : Nat) : List SnapshotEvent :=
  List.replicate (n + 1) fullSample ++ [.callback .active, fullSample, .callback .active]

theorem log_wrapEvents (n : Nat) :
    ∃ e, (emptyBoot.after (wrapEvents n)).log =
      [(⟨BitVec.ofNat 32 ((n + 1) * 65535), BitVec.ofNat 32 (n + 1),
        BitVec.ofNat 32 ((n + 1) * 65535) + 65535, BitVec.ofNat 32 (n + 1) + 1⟩, e)] := by
  obtain ⟨haccum, htag, hreset, hlog⟩ := after_fullSamples (n + 1)
  have hpending := resetPending_fullSamples n
  have hsplit : emptyBoot.after (wrapEvents n) = (((emptyBoot.after (List.replicate (n + 1) fullSample)).step
      (.callback .active)).step fullSample).step (.callback .active) := by
    unfold AverageTrace.after wrapEvents
    rw [List.foldl_append]
    rfl
  rw [hsplit]
  generalize emptyBoot.after (List.replicate (n + 1) fullSample) = t at *
  have hopened : t.snapshots.pwrsys.opened = t.snapshots.pwrsys := by
    unfold SensorState.opened
    rw [if_neg (by rw [hpending]; exact Bool.false_ne_true)]
  rw [hopened] at haccum
  -- the first callback notes the counters
  have hnoted : (t.step (.callback .active)).prevAccum = BitVec.ofNat 32 ((n + 1) * 65535) ∧
      (t.step (.callback .active)).prevTag = BitVec.ofNat 32 (n + 1) ∧ (t.step (.callback .active)).log = [] ∧
      (t.step (.callback .active)).snapshots = t.snapshots.cmdhSnapshotCallback .active := by
    unfold AverageTrace.step AverageTrace.note
    dsimp only
    rw [if_pos hreset]
    refine ⟨?_, htag, hlog, rfl⟩
    show t.snapshots.pwrsys.accumulator.setWidth 32 = _
    rw [haccum, BitVec.setWidth_ofNat_of_le (by decide)]
  have hcleared : (t.snapshots.cmdhSnapshotCallback .active).pwrsys = t.snapshots.pwrsys ∧
      (t.snapshots.cmdhSnapshotCallback .active).reset = false :=
    ⟨((syncLaw.outside hreset .active).2).2, (syncLaw.history hreset .active).2.2.2.2.2⟩
  generalize t.step (.callback .active) = u at *
  obtain ⟨hprevAccum, hprevTag, hlog, hsnapshots⟩ := hnoted
  obtain ⟨hpwrsys, hreset⟩ := hcleared
  rw [← hsnapshots] at hpwrsys hreset
  refine ⟨(u.step fullSample).snapshots.newEntry, ?_⟩
  have hrecorded : ((u.step fullSample).step (.callback .active)).log =
      (u.step fullSample).log ++ [((u.step fullSample).interval, (u.step fullSample).snapshots.newEntry)] := by
    show (AverageTrace.note _ _).2 = _
    unfold AverageTrace.note
    dsimp only
    rw [if_neg (show ¬ (u.step fullSample).snapshots.reset = true by
      rw [show (u.step fullSample).snapshots.reset = false from hreset]; exact Bool.false_ne_true)]
    rfl
  have haccum' : (u.step fullSample).snapshots.pwrAccum = BitVec.ofNat 32 ((n + 1) * 65535) + 65535 := by
    show ((u.snapshots.pwrsys.update 0 0xFFFF).accumulator).setWidth 32 = _
    rw [accumulator_update, hpwrsys, hopened, haccum, BitVec.setWidth_add _ _ (by decide),
      BitVec.setWidth_ofNat_of_le (by decide)]
    rfl
  have htag' : (u.step fullSample).snapshots.pwrsys.updateTag = BitVec.ofNat 32 (n + 1) + 1 := by
    show (u.snapshots.pwrsys.update 0 0xFFFF).updateTag = _
    rw [updateTag_update, hpwrsys, htag]
  rw [hrecorded, show (u.step fullSample).log = [] from hlog, List.nil_append]
  unfold AverageTrace.interval
  rw [haccum', htag', show (u.step fullSample).prevAccum = _ from hprevAccum,
    show (u.step fullSample).prevTag = _ from hprevTag]

/-- With 65537 updates before the first callback the accumulator wraps: every update was 65535, and the snapshot reports
65534. -/
theorem wrapped_average_short :
    ∃ p ∈ (emptyBoot.after (wrapEvents 65536)).log, p.2.avgDc = 65534 ∧ p.1.average = 65535 := by
  obtain ⟨e, hlog⟩ := log_wrapEvents 65536
  have htraced : (emptyBoot.after (wrapEvents 65536)).Traced := traced_after traced_boot (wrapEvents 65536)
  have hreported := htraced.reported
  rw [hlog] at hreported ⊢
  refine ⟨_, List.mem_singleton_self _, ?_, ?_⟩
  · rw [hreported _ (List.mem_singleton_self _)]
    dsimp only
    decide
  · dsimp only
    decide

end Occ.Cmdh
