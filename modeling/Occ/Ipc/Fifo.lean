/-
The circular buffers of a target as queues: from any start of the counters and across their wrap,
the messages taken out of a buffer are those put in, in order, each once, and what is left is in the
buffer's slots. Messages that are in the buffer when it is disabled or enabled are dropped.
-/
import Occ.Ipc.Cbuf
import Occ.Lib.Ring
import Occ.Lib.Transition

namespace Occ.Ipc

open Occ Ring Transition

variable {M : Type}

/-! ## One buffer -/

/-- A sender past the check has room for its message. -/
def Sending (o : BitVec 8) (b : Cbuf M) : Prop :=
  match b.send with
  | .idle | .written => True
  | .checked _ => b.sent.length < b.consumed.length + ipcCbufSize
  | .stored msg =>
    b.sent.length < b.consumed.length + ipcCbufSize ∧ b.msgs ((o.toNat + b.sent.length) % ipcCbufSize) = msg

/-- The buffer takes messages. -/
def Opened (o : BitVec 8) (b : Cbuf M) : Prop := b.read = count o b.consumed.length

/-- The buffer is blocked. -/
def Closed (o : BitVec 8) (b : Cbuf M) : Prop := b.read = count o b.consumed.length - 16#8

/-- The invariant of a buffer whose write count started at `o`. -/
structure CbufOk (o : BitVec 8) (b : Cbuf M) : Prop where
  window : Window ipcCbufSize o.toNat b.msgs b.sent b.consumed.length
  write : b.write = count o b.sent.length
  fifo : b.consumed.map Prod.fst <+: b.sent
  sending : Sending o b
  read : Opened o b ∨ Closed o b

/-- A write count read from the buffer since its last message was consumed. -/
def Loaded (o : BitVec 8) (b : Cbuf M) (write : BitVec 8) : Prop :=
  ∃ n, write = count o n ∧ b.consumed.length ≤ n ∧ n ≤ b.sent.length

section Cbuf

variable {o write : BitVec 8} {b : Cbuf M} {msg : M}

theorem Sending.mono {b' : Cbuf M} (h : Sending o b) (hsend : b'.send = b.send) (hsent : b'.sent = b.sent)
    (hmsgs : b'.msgs = b.msgs) (hle : b.consumed.length ≤ b'.consumed.length) : Sending o b' := by
  unfold Sending at h ⊢
  rw [hsend, hsent, hmsgs]
  split <;> rename_i hs <;> simp only [hs] at h
  · trivial
  · trivial
  · exact Nat.lt_of_lt_of_le h (by omega)
  · exact ⟨Nat.lt_of_lt_of_le h.1 (by omega), h.2⟩

theorem CbufOk.bounds (h : CbufOk o b) : b.consumed.length ≤ b.sent.length ∧ b.sent.length ≤ b.consumed.length + 8 :=
  ⟨h.window.le, h.window.size⟩

theorem CbufOk.numEntries_opened (h : CbufOk o b) (hb : Opened o b) :
    b.numEntries = b.sent.length - b.consumed.length := by
  have ⟨hle, hsz⟩ := h.bounds
  unfold Cbuf.numEntries
  rw [h.write, hb]
  exact count_sub hle (by omega)

theorem CbufOk.numEntries_closed (h : CbufOk o b) (hb : Closed o b) :
    b.numEntries = b.sent.length - b.consumed.length + 16 := by
  have ⟨hle, hsz⟩ := h.bounds
  have hc : (count o b.sent.length - count o b.consumed.length).toNat = b.sent.length - b.consumed.length :=
    count_sub hle (by omega)
  unfold Cbuf.numEntries
  rw [h.write, hb]
  bv_omega

theorem CbufOk.sendMsg (h : CbufOk o b) : CbufOk o (b.sendMsg msg) := by
  unfold Cbuf.sendMsg
  split
  · rename_i hn
    refine ⟨h.window, h.write, h.fifo, ?_, h.read⟩
    rcases h.read with hb | hb
    · rw [h.numEntries_opened hb] at hn
      have ⟨hle, hsz⟩ := h.bounds
      show b.sent.length < b.consumed.length + ipcCbufSize
      omega
    · rw [h.numEntries_closed hb] at hn
      simp only [ipcCbufSize] at hn
      omega
  · split
    · exact ⟨h.window, h.write, h.fifo, h.sending, h.read⟩
    · exact ⟨h.window, h.write, h.fifo, h.sending, h.read⟩

theorem CbufOk.slot (h : CbufOk o b) : b.write.toNat % ipcCbufSize = (o.toNat + b.sent.length) % ipcCbufSize := by
  rw [h.write]
  exact count_mod (by decide)

theorem CbufOk.store (h : CbufOk o b) (hs : b.send = .checked msg) : CbufOk o (b.store msg) := by
  have hroom := h.sending
  unfold Sending at hroom
  rw [hs] at hroom
  have hroom' : b.sent.length < b.consumed.length + ipcCbufSize := hroom
  unfold Cbuf.store
  rw [h.slot]
  exact ⟨h.window.store hroom', h.write, h.fifo, ⟨hroom', by simp⟩, h.read⟩

theorem CbufOk.publish (h : CbufOk o b) (hs : b.send = .stored msg) : CbufOk o (b.publish msg) := by
  have hroom := h.sending
  unfold Sending at hroom
  rw [hs] at hroom
  obtain ⟨hlt, hmsg⟩ : _ ∧ _ := hroom
  refine ⟨h.window.publish hlt hmsg, ?_, h.fifo.trans (List.prefix_append _ _), trivial, h.read⟩
  show b.write + 1#8 = count o (b.sent ++ [msg]).length
  rw [h.write, List.length_append, List.length_singleton, count_succ]

theorem CbufOk.process (h : CbufOk o b) (hb : Opened o b) (hm : b.sent[b.consumed.length]? = some msg) :
    CbufOk o (b.process msg) ∧ Opened o (b.process msg) := by
  obtain ⟨hlt, hget⟩ := List.getElem?_eq_some_iff.1 hm
  have hop : Opened o (b.process msg) := by
    show b.read + 1#8 = count o (b.consumed ++ [(msg, true)]).length
    rw [hb, List.length_append, List.length_singleton, count_succ]
  have hlen : (b.process msg).consumed.length = b.consumed.length + 1 := by simp [Cbuf.process]
  refine ⟨⟨?_, h.write, ?_, ?_, .inl hop⟩, hop⟩
  · rw [hlen]
    exact h.window.skip (Nat.le_succ _) hlt
  · show (b.consumed ++ [(msg, true)]).map Prod.fst <+: b.sent
    obtain ⟨rest, hrest⟩ := h.fifo
    rw [← hrest] at hm
    rw [List.getElem?_append_right (by simp)] at hm
    cases rest with
    | nil => simp at hm
    | cons a rest =>
      have ha : a = msg := by simpa using hm
      exact ⟨rest, by rw [← hrest, ha]; simp⟩
  · exact h.sending.mono rfl rfl rfl (by omega)

/-- What is given up: the messages from the last one consumed up to the write count. -/
theorem CbufOk.dropUpTo (h : CbufOk o b) (hl : Loaded o b write) :
    write = count o (b.dropUpTo write).length ∧ b.consumed.length ≤ (b.dropUpTo write).length ∧
      (b.dropUpTo write).length ≤ b.sent.length ∧ (b.dropUpTo write).map Prod.fst <+: b.sent := by
  obtain ⟨n, hw, hcn, hns⟩ := hl
  have ⟨hle, hsz⟩ := h.bounds
  have hsub : (b.write - write).toNat = b.sent.length - n := by
    rw [h.write, hw]
    exact count_sub hns (by omega)
  have htake : b.sent.length - (b.sent.length - n) = n := by omega
  have hlen : (b.dropUpTo write).length = n := by
    unfold Cbuf.dropUpTo
    rw [hsub, htake, List.length_append, List.length_map, List.length_drop, List.length_take]
    omega
  have hmap : (b.dropUpTo write).map Prod.fst = b.sent.take n := by
    unfold Cbuf.dropUpTo
    rw [hsub, htake, List.map_append, List.map_map]
    have hc : b.consumed.map Prod.fst = (b.sent.take n).take b.consumed.length := by
      rw [List.take_take, Nat.min_eq_left hcn]
      have := List.prefix_iff_eq_take.1 h.fifo
      rwa [List.length_map] at this
    rw [hc]
    simp [Function.comp_def]
  rw [hlen, hmap]
  exact ⟨hw, hcn, hns, List.take_prefix _ _⟩

theorem CbufOk.giveUp (h : CbufOk o b) (hl : Loaded o b write) {read : BitVec 8}
    (hread : read = write ∨ read = write - 16#8) : CbufOk o { b with read, consumed := b.dropUpTo write } := by
  obtain ⟨hw, hcn, hns, hfifo⟩ := h.dropUpTo hl
  refine ⟨h.window.skip hcn hns, h.write, hfifo, ?_, ?_⟩
  · exact h.sending.mono rfl rfl rfl hcn
  · rcases hread with hr | hr
    · exact .inl (hr.trans hw)
    · refine .inr (hr.trans ?_)
      show write - 16#8 = count o (b.dropUpTo write).length - 16#8
      rw [← hw]

theorem CbufOk.enable (h : CbufOk o b) (hl : Loaded o b write) :
    CbufOk o (b.enable write) ∧ Opened o (b.enable write) :=
  ⟨h.giveUp hl (.inl rfl), (h.dropUpTo hl).1⟩

theorem CbufOk.disable (h : CbufOk o b) (hl : Loaded o b write) :
    CbufOk o (b.disable write) ∧ Closed o (b.disable write) := by
  refine ⟨h.giveUp hl (.inr rfl), ?_⟩
  show write - 16#8 = count o (b.dropUpTo write).length - 16#8
  rw [← (h.dropUpTo hl).1]

theorem CbufOk.loaded (h : CbufOk o b) : Loaded o b b.write :=
  ⟨b.sent.length, h.write, h.window.le, Nat.le_refl _⟩

end Cbuf

/-! ## The target -/

def AllOpen (o : Nat → BitVec 8) (k : Target M) : Prop := ∀ s ≤ instIdMax, Opened (o s) (k.cbuf s)

def AllClosed (o : Nat → BitVec 8) (k : Target M) : Prop := ∀ s ≤ instIdMax, Closed (o s) (k.cbuf s)

/-- The interrupt is pending, or the sender is about to raise it. -/
def Raised (k : Target M) (s : Nat) : Prop := k.irqStatus = true ∨ (k.cbuf s).send = .written

/-- What is known of the buffers at each place of the target. -/
def PcOk (o : Nat → BitVec 8) (k : Target M) : TargetPc M → Prop
  | .idle => if k.irqMasked then AllClosed o k else AllOpen o k
  | .entered | .cleared | .scan _ => k.irqMasked = true ∧ AllOpen o k
  | .cbuf s _ | .processing s _ => s ≤ instIdMax ∧ k.irqMasked = true ∧ AllOpen o k
  | .found s _ => s ≤ instIdMax ∧ k.irqMasked = true ∧ AllOpen o k ∧ (k.cbuf s).consumed.length < (k.cbuf s).sent.length
  | .extracted s msg _ =>
    s ≤ instIdMax ∧ k.irqMasked = true ∧ AllOpen o k ∧ (k.cbuf s).sent[(k.cbuf s).consumed.length]? = some msg
  | .enabling writes =>
    k.irqMasked = true ∧ AllClosed o k ∧ ∀ ws, writes = some ws → ∀ s ≤ instIdMax,
      Loaded (o s) (k.cbuf s) (ws s) ∧ (ws s ≠ (k.cbuf s).write → Raised k s)
  | .disabling i write ret =>
    k.irqMasked = true ∧ k.disabled = true ∧ (ret matches .idle | .halted) ∧
      (∀ s ≤ instIdMax, s < i → Closed (o s) (k.cbuf s)) ∧
      ∀ w, write = some w → i ≤ instIdMax ∧ Loaded (o i) (k.cbuf i) w
  | .halted => True

/-- A message in the buffer of `s` will be found. -/
def Noticed (k : Target M) (s : Nat) : TargetPc M → Prop
  | .idle => k.irqMasked = false → Raised k s
  | .scan xored => xored s ≠ 0#8 ∨ Raised k s
  | .cbuf t xored | .found t xored | .extracted t _ xored | .processing t xored => t = s ∨ xored s ≠ 0#8 ∨ Raised k s
  | _ => True

/-- The target has not been enabled since it was last disabled. -/
def Unopened (k : Target M) : TargetPc M → Prop
  | .idle => k.irqMasked = true
  | .enabling _ => True
  | _ => False

structure IpcInv (o : Nat → BitVec 8) (k : Target M) : Prop where
  cbufs : ∀ s ≤ instIdMax, CbufOk (o s) (k.cbuf s)
  pc : PcOk o k k.pc
  noticed : ∀ s ≤ instIdMax, (k.cbuf s).consumed.length < (k.cbuf s).sent.length → Noticed k s k.pc
  processed : k.disabled = false → ∀ s ≤ instIdMax, ∀ c ∈ (k.cbuf s).consumed, c.2 = true
  unopened : k.disabled = false → Unopened k k.pc → ∀ s ≤ instIdMax, (k.cbuf s).sent = [] ∧ (k.cbuf s).send = .idle

section Target

variable {o : Nat → BitVec 8} {k k' : Target M} {s : Nat} {b : Cbuf M} {irqStatus : Bool}

/-- What a step of one sender leaves alone, of every buffer. -/
structure SenderStep (k k' : Target M) : Prop where
  pc : k'.pc = k.pc
  masked : k'.irqMasked = k.irqMasked
  disabled : k'.disabled = k.disabled
  read : ∀ s, (k'.cbuf s).read = (k.cbuf s).read
  consumed : ∀ s, (k'.cbuf s).consumed = (k.cbuf s).consumed
  sent : ∀ s, (k.cbuf s).sent <+: (k'.cbuf s).sent
  raised : ∀ s, Raised k s → Raised k' s
  new : ∀ s, (k'.cbuf s).sent = (k.cbuf s).sent ∧ (k'.cbuf s).write = (k.cbuf s).write ∨ Raised k' s

theorem SenderStep.opened (h : SenderStep k k') {o : BitVec 8} (hb : Opened o (k.cbuf s)) : Opened o (k'.cbuf s) := by
  unfold Opened at hb ⊢
  rw [h.read, h.consumed, hb]

theorem SenderStep.closed (h : SenderStep k k') {o : BitVec 8} (hb : Closed o (k.cbuf s)) : Closed o (k'.cbuf s) := by
  unfold Closed at hb ⊢
  rw [h.read, h.consumed, hb]

theorem SenderStep.loaded (h : SenderStep k k') {o w : BitVec 8} (hb : Loaded o (k.cbuf s) w) :
    Loaded o (k'.cbuf s) w := by
  obtain ⟨n, hw, hle, hlen⟩ := hb
  refine ⟨n, hw, ?_, Nat.le_trans hlen (h.sent s).length_le⟩
  rw [h.consumed]
  exact hle

theorem SenderStep.pcOk (h : SenderStep k k') {pc : TargetPc M} (hpc : PcOk o k pc) : PcOk o k' pc := by
  have hopen : AllOpen o k → AllOpen o k' := fun ha s hs => h.opened (ha s hs)
  have hclosed : AllClosed o k → AllClosed o k' := fun ha s hs => h.closed (ha s hs)
  cases pc with
  | idle =>
    simp only [PcOk, h.masked] at hpc ⊢
    split
    · rename_i hm
      rw [if_pos hm] at hpc
      exact hclosed hpc
    · rename_i hm
      rw [if_neg hm] at hpc
      exact hopen hpc
  | entered | cleared | scan xored =>
    obtain ⟨hm, ha⟩ : _ ∧ _ := hpc
    exact ⟨h.masked.trans hm, hopen ha⟩
  | cbuf t xored | processing t xored =>
    obtain ⟨ht, hm, ha⟩ : _ ∧ _ ∧ _ := hpc
    exact ⟨ht, h.masked.trans hm, hopen ha⟩
  | found t xored =>
    obtain ⟨ht, hm, ha, hlt⟩ : _ ∧ _ ∧ _ ∧ _ := hpc
    refine ⟨ht, h.masked.trans hm, hopen ha, ?_⟩
    rw [h.consumed]
    exact Nat.lt_of_lt_of_le hlt (h.sent t).length_le
  | extracted t msg xored =>
    obtain ⟨ht, hm, ha, hmsg⟩ : _ ∧ _ ∧ _ ∧ _ := hpc
    refine ⟨ht, h.masked.trans hm, hopen ha, ?_⟩
    rw [h.consumed]
    obtain ⟨rest, hrest⟩ := h.sent t
    rw [← hrest, List.getElem?_append_left (List.getElem?_eq_some_iff.1 hmsg).1]
    exact hmsg
  | enabling writes =>
    obtain ⟨hm, ha, hl⟩ : _ ∧ _ ∧ _ := hpc
    refine ⟨h.masked.trans hm, hclosed ha, fun ws hws s hs => ?_⟩
    obtain ⟨hload, hr⟩ := hl ws hws s hs
    refine ⟨h.loaded hload, fun hne => ?_⟩
    rcases h.new s with ⟨-, hw⟩ | hr'
    · rw [hw] at hne
      exact h.raised s (hr hne)
    · exact hr'
  | disabling i write ret =>
    obtain ⟨hm, hd, hret, hcl, hl⟩ : _ ∧ _ ∧ _ ∧ _ ∧ _ := hpc
    refine ⟨h.masked.trans hm, h.disabled.trans hd, hret, fun s hs hi => h.closed (hcl s hs hi), fun w hw => ?_⟩
    obtain ⟨hi, hload⟩ := hl w hw
    exact ⟨hi, h.loaded hload⟩
  | halted => trivial

theorem SenderStep.noticed (h : SenderStep k k') (hlt : (k'.cbuf s).consumed.length < (k'.cbuf s).sent.length)
    {pc : TargetPc M} (hn : (k.cbuf s).consumed.length < (k.cbuf s).sent.length → Noticed k s pc) :
    Noticed k' s pc := by
  rcases h.new s with ⟨hs, -⟩ | hr
  · rw [h.consumed, hs] at hlt
    have hn := hn hlt
    cases pc with
    | idle => exact fun hm => h.raised s (hn (h.masked ▸ hm))
    | scan xored => exact hn.imp_right (h.raised s)
    | cbuf t xored | found t xored | extracted t msg xored | processing t xored => exact hn.imp_right (Or.imp_right (h.raised s))
    | entered | cleared | enabling writes | disabling i write ret | halted => trivial
  · cases pc with
    | idle => exact fun _ => hr
    | scan xored => exact .inr hr
    | cbuf t xored | found t xored | extracted t msg xored | processing t xored => exact .inr (.inr hr)
    | entered | cleared | enabling writes | disabling i write ret | halted => trivial

theorem SenderStep.unopened (h : SenderStep k k') {pc : TargetPc M} : Unopened k' pc ↔ Unopened k pc := by
  cases pc <;> simp [Unopened, h.masked]

theorem IpcInv.allClosed (h : IpcInv o k) (hu : Unopened k k.pc) : AllClosed o k := by
  have hpc := h.pc
  revert hu hpc
  generalize k.pc = pc
  intro hu hpc
  cases pc with
  | idle =>
    simp only [PcOk, show k.irqMasked = true from hu, if_true] at hpc
    exact hpc
  | enabling writes => exact hpc.2.1
  | entered | cleared | scan xored | cbuf s xored | found s xored | extracted s msg xored
  | processing s xored | disabling i write ret | halted => exact hu.elim

theorem forall_cbufOk_update (h : IpcInv o k) (hb : s ≤ instIdMax → CbufOk (o s) b) :
    ∀ t ≤ instIdMax, CbufOk (o t) (Function.update k.cbuf s b t) := by
  intro t ht
  by_cases hts : t = s
  · subst hts
    simpa using hb ht
  · rw [Function.update_of_ne hts]
    exact h.cbufs t ht

/-- The message is handed to its handler. -/
theorem IpcInv.process (h : IpcInv o k) {msg : M} {xored : Nat → BitVec 8} (hs : k.pc = .extracted s msg xored) :
    IpcInv o { k.modCbuf s (·.process msg) with pc := .processing s xored } := by
  have hpc := h.pc
  have hn := h.noticed
  rw [hs] at hpc hn
  obtain ⟨hs', hm, hopen, hmsg⟩ : _ ∧ _ ∧ _ ∧ _ := hpc
  obtain ⟨hok, hop⟩ := (h.cbufs s hs').process (hopen s hs') hmsg
  refine ⟨forall_cbufOk_update h fun _ => hok, ⟨hs', hm, fun t ht => ?_⟩, fun t ht hlt => ?_, fun hd t ht => ?_,
    fun _ hu => hu.elim⟩
  · by_cases hts : t = s
    · subst hts
      simpa [Target.modCbuf] using hop
    · simpa [Target.modCbuf, Function.update_of_ne hts] using hopen t ht
  · by_cases hts : s = t
    · exact .inl hts
    · simp only [Target.modCbuf, Function.update_of_ne (Ne.symm hts)] at hlt
      simpa [Noticed, Raised, Target.modCbuf, Function.update_of_ne (Ne.symm hts)] using hn t ht hlt
  · have hproc := h.processed hd t ht
    by_cases hts : t = s
    · subst hts
      simpa [Target.modCbuf, Cbuf.process, or_imp, forall_and] using hproc
    · simpa [Target.modCbuf, Function.update_of_ne hts] using hproc

/-- `ipc_enable` writes the read counts, and unmasks the interrupt. -/
theorem IpcInv.enable (h : IpcInv o k) {ws : Nat → BitVec 8} (hs : k.pc = .enabling (some ws)) :
    IpcInv o { k with cbuf := fun s => (k.cbuf s).enable (ws s), irqMasked := false, pc := .idle } := by
  have hpc := h.pc
  rw [hs] at hpc
  obtain ⟨hm, hcl, hload⟩ : _ ∧ _ ∧ _ := hpc
  have hload := hload ws rfl
  refine ⟨fun s hs' => ((h.cbufs s hs').enable (hload s hs').1).1, fun s hs' => ((h.cbufs s hs').enable (hload s hs').1).2,
    fun s hs' hlt _ => ?_, fun hd s hs' => ?_, fun _ hu => by cases hu⟩
  · -- what was written since the counts were read has raised the interrupt
    have hb := h.cbufs s hs'
    obtain ⟨hload, hr⟩ := hload s hs'
    obtain ⟨hw, hcons, hle, -⟩ := hb.dropUpTo hload
    have hle' := hb.bounds
    refine hr fun heq => ?_
    have hcount : count (o s) ((k.cbuf s).dropUpTo (ws s)).length = count (o s) (k.cbuf s).sent.length := by
      rw [← hw, heq, hb.write]
    rw [count_eq_iff hle (by omega)] at hcount
    exact absurd hlt (by simp [Cbuf.enable, hcount])
  · have hsent := (h.unopened hd (by rw [hs]; trivial) s hs').1
    have hproc := h.processed hd s hs'
    simpa [Cbuf.enable, Cbuf.dropUpTo, hsent] using hproc

/-- `ipc_disable` closes one buffer. -/
theorem IpcInv.disable (h : IpcInv o k) {i : Nat} {w : BitVec 8} {ret : TargetPc M}
    (hs : k.pc = .disabling i (some w) ret) :
    IpcInv o { k.modCbuf i (·.disable w) with pc := .disabling (i + 1) none ret } := by
  have hpc := h.pc
  rw [hs] at hpc
  obtain ⟨hm, hd, hret, hcl, hl⟩ : _ ∧ _ ∧ _ ∧ _ ∧ _ := hpc
  obtain ⟨hi, hload⟩ := hl w rfl
  obtain ⟨hok, hclosed⟩ := (h.cbufs i hi).disable hload
  refine ⟨forall_cbufOk_update h fun _ => hok, ⟨hm, hd, hret, fun t ht hlt => ?_, nofun⟩, fun _ _ _ => trivial,
    fun hd' => absurd (hd.symm.trans hd') (by simp), fun hd' => absurd (hd.symm.trans hd') (by simp)⟩
  by_cases hti : t = i
  · subst hti
    simpa [Target.modCbuf] using hclosed
  · simpa [Target.modCbuf, Function.update_of_ne hti] using hcl t ht (by omega)

end Target

/-! ## Runs -/

/-- The target can receive messages. -/
def Target.receiving (k : Target M) : Bool :=
  match k.pc with
  | .idle => !k.irqMasked
  | .entered | .cleared | .scan _ | .cbuf _ _ | .found _ _ | .extracted _ _ _ | .processing _ _ => true
  | _ => false

/-- The target is disabled, and not halted. -/
def Target.blocked (k : Target M) : Bool :=
  match k.pc with
  | .idle => k.irqMasked
  | .enabling _ => true
  | _ => false

/-- What the buffers of a target promise, but for the targets where messages may be dropped. -/
structure IpcOk (exempt : Target M → Prop) (o : Nat → BitVec 8) (k : Target M) : Prop where
  /-- taken out in the order they were put in, each once -/
  fifo : ∀ s ≤ instIdMax, (k.cbuf s).consumed.map Prod.fst <+: (k.cbuf s).sent
  processed : ¬exempt k → ∀ s ≤ instIdMax, ∀ c ∈ (k.cbuf s).consumed, c.2 = true
  /-- no slot is overwritten before it is read -/
  slots : ∀ s ≤ instIdMax, ∀ i, (k.cbuf s).consumed.length ≤ i → i < (k.cbuf s).sent.length →
    (k.cbuf s).sent[i]? = some ((k.cbuf s).msgs (((o s).toNat + i) % ipcCbufSize))
  /-- what is left in a buffer will be found -/
  noticed : k.pc matches .idle → k.irqMasked = false → ∀ s ≤ instIdMax,
    (k.cbuf s).consumed.length < (k.cbuf s).sent.length → Raised k s
  full : k.receiving = true → ∀ s ≤ instIdMax, ∀ msg, (k.cbuf s).sendMsg msg =
    if (k.cbuf s).sent.length < (k.cbuf s).consumed.length + ipcCbufSize then { k.cbuf s with send := .checked msg }
    else { k.cbuf s with rc := .bufferFull }
  blocked : k.blocked = true → ∀ s ≤ instIdMax, ∀ msg, (k.cbuf s).sendMsg msg = { k.cbuf s with rc := .targetBlocked }

section Runs

variable {o : Nat → BitVec 8} {k : Target M}

theorem IpcInv.opened_of_receiving (h : IpcInv o k) (hr : k.receiving = true) : AllOpen o k := by
  have hpc := h.pc
  unfold Target.receiving at hr
  revert hr hpc
  generalize k.pc = pc
  intro hr hpc
  cases pc with
  | idle =>
    have hm : k.irqMasked = false := by simpa using hr
    simpa [PcOk, hm] using hpc
  | entered | cleared | scan xored => exact hpc.2
  | cbuf s xored | processing s xored => exact hpc.2.2
  | found s xored | extracted s msg xored => exact hpc.2.2.1
  | enabling writes | disabling i write ret | halted => cases hr

theorem IpcInv.closed_of_blocked (h : IpcInv o k) (hb : k.blocked = true) : AllClosed o k := by
  refine h.allClosed ?_
  unfold Target.blocked at hb
  split at hb <;> rename_i hs
  · rw [hs]
    exact hb
  · rw [hs]
    trivial
  · cases hb

theorem IpcOk.of_inv (h : IpcInv o k) : IpcOk (fun k => k.disabled = true) o k := by
  refine ⟨fun s hs => (h.cbufs s hs).fifo, ?_, fun s hs => (h.cbufs s hs).window.slots, ?_, ?_, ?_⟩
  · intro hd
    exact h.processed (by simpa using hd)
  · intro hpc hm s hs hlt
    have hn := h.noticed s hs hlt
    cases hpc' : k.pc <;> simp only [hpc', Bool.false_eq_true] at hpc hn
    exact hn hm
  · intro hr s hs msg
    have hb := h.cbufs s hs
    have hn := hb.numEntries_opened (h.opened_of_receiving hr s hs)
    obtain ⟨hle, hsz⟩ := hb.bounds
    unfold Cbuf.sendMsg
    rw [hn]
    have hsize : ipcCbufSize = 8 := rfl
    by_cases hlt : (k.cbuf s).sent.length < (k.cbuf s).consumed.length + ipcCbufSize
    · rw [if_pos (by omega), if_pos hlt]
    · rw [if_neg (by omega), if_pos (by omega), if_neg hlt]
  · intro hbl s hs msg
    have hn := (h.cbufs s hs).numEntries_closed (h.closed_of_blocked hbl s hs)
    unfold Cbuf.sendMsg
    have hsize : ipcCbufSize = 8 := rfl
    rw [hn, if_neg (by omega), if_neg (by omega)]

end Runs

end Occ.Ipc
