/-
What a call does to an error log: it changes fields, or adds a section of user details behind the log, or nothing.
-/
import Occ.Errl.Slot

namespace Occ.Errl

open Occ.Staged (Byte Memory)
open Occ.Marked (Clear)
open Occ.Trac (TraceComp traceBufHeadSize)

open Slot

/-! ## Changes -/

/-- A write to fields that no call but the first and the last changes otherwise. -/
inductive CallWrite : Nat × List Byte → Prop
  | low {a : Nat} {bs : List Byte} : 4 ≤ a → a + bs.length ≤ 7 → CallWrite (a, bs)
  | numCallouts {n : Byte} : n.toNat ≤ maxCallouts → CallWrite (11, [n])
  | callouts {a : Nat} {bs : List Byte} : 12 ≤ a → a + bs.length ≤ 84 → CallWrite (a, bs)

/-- What a call does to a log. When it adds a section, it says how long this is; the section has been written if `full`. -/
inductive Change (full : Prop) (s : Slot) : Slot → Prop
  | none : Change full s s
  | fields {ws : List (Nat × List Byte)} : committed s = false → (∀ w ∈ ws, CallWrite w) → Change full s (s.puts 0 ws)
  | details {ws : List (Nat × List Byte)} {n : BitVec 16} : committed s = false →
      (∀ w ∈ ws, (entrySize s).toNat + w.1 + w.2.length ≤ (maxSize s).toNat) →
      (entrySize s).toNat + n.toNat ≤ (maxSize s).toNat →
      (n = 0 ∨ n.toNat = 4 + (half (s.puts (entrySize s).toNat ws).mem ((entrySize s).toNat + 2)).toNat) →
      (full → ∀ i < n.toNat, ∃ w ∈ ws, w.1 ≤ i ∧ i < w.1 + w.2.length) →
      Change full s (addSizes (s.puts (entrySize s).toNat ws) n)

theorem Change.imp {full full' : Prop} {s s' : Slot} (himp : full' → full) (h : Change full s s') : Change full' s s' := by
  cases h with
  | none => exact .none
  | fields hcommitted hws => exact .fields hcommitted hws
  | details hcommitted hin hroom hheader hfills =>
    exact .details hcommitted hin hroom hheader fun hfull => hfills (himp hfull)

/-! ## Headers of sections -/

section
variable (s : Slot) (a : Nat) (version type : Byte) (size : BitVec 16)

theorem length_usrDtlsEntry : (usrDtlsEntry version type size).length = 4 := by
  unfold usrDtlsEntry
  rw [List.length_append, Bytes.length_ofWord]
  rfl

theorem half_usrDtlsEntry : half (s.put a (usrDtlsEntry version type size)).mem (a + 2) = size :=
  Marked.half_put_get size rfl rfl

end

/-! ## What each call changes -/

section
variable (s : Slot) {full : Prop}

theorem addErrHistory_change (history : ErrorHistory) : Change full s (addErrHistory s history) := by
  have hfour : sizeofUsrDtlsEntry.toNat = 4 := rfl
  unfold addErrHistory
  split
  · rename_i h
    obtain ⟨hcommitted, hroom⟩ := h
    have hsize : (sizeofUsrDtlsEntry + 48).toNat = 52 := rfl
    rw [hfour] at hroom
    refine .details hcommitted ?_ (by rw [hsize]; omega) (Or.inr ?_) fun _ i hi => ?_
    · simp only [List.forall_mem_cons, List.not_mem_nil, IsEmpty.forall_iff, implies_true, and_true, history.length_eq,
        length_usrDtlsEntry]
      omega
    · rw [hsize, Marked.puts_cons, Marked.puts_cons, Marked.puts_nil, Nat.add_zero, half_usrDtlsEntry]
      rfl
    · rw [hsize] at hi
      by_cases hlow : i < 4
      · refine ⟨(0, usrDtlsEntry 1 0x04 48), by simp, Nat.zero_le i, ?_⟩
        rw [length_usrDtlsEntry]
        omega
      · refine ⟨(4, history.bytes), by simp, Nat.le_of_not_lt hlow, ?_⟩
        rw [history.length_eq]
        omega
  · exact .none

/-- There is room for the header of a section if there is room at all. -/
def HeaderFits : Prop := (entrySize s).toNat < (maxSize s).toNat → (entrySize s).toNat + 4 ≤ (maxSize s).toNat

theorem availableSize_toNat (h : (entrySize s).toNat + 4 ≤ (maxSize s).toNat) :
    (availableSize s).toNat = (maxSize s).toNat - ((entrySize s).toNat + 4) := by
  have hfour : sizeofUsrDtlsEntry.toNat = 4 := rfl
  have hmax := (maxSize s).isLt
  unfold availableSize
  rw [BitVec.toNat_sub, BitVec.toNat_add, hfour]
  omega

theorem minSize_toNat (x y : BitVec 16) : (if x < y then x else y).toNat = min x.toNat y.toNat := by
  split
  · rename_i h
    have hlt : x.toNat < y.toNat := h
    omega
  · rename_i h
    have hle : ¬x.toNat < y.toNat := h
    omega

theorem addUsrDtlsToErrl_change {data : Option Memory} {size : BitVec 16} (version type : Byte)
    (hfits : data ≠ none → committed s = false → size ≠ 0 → HeaderFits s) :
    Change full s (addUsrDtlsToErrl s data size version type) := by
  have hfour : sizeofUsrDtlsEntry.toNat = 4 := rfl
  unfold addUsrDtlsToErrl
  split
  · rename_i data
    split
    · rename_i h
      obtain ⟨hcommitted, hsize, hroom⟩ := h
      have hheader := hfits (by simp) hcommitted hsize hroom
      have havail := availableSize_toNat s hheader
      have hmin := minSize_toNat size (availableSize s)
      dsimp only
      set n := if size < availableSize s then size else availableSize s with hn
      have hmax := (maxSize s).isLt
      have htotal : (sizeofUsrDtlsEntry + n).toNat = 4 + n.toNat := by
        rw [BitVec.toNat_add, hfour]
        omega
      have hlen : ((List.range n.toNat).map data).length = n.toNat := by simp
      refine .details hcommitted ?_ (by rw [htotal]; omega) (Or.inr ?_) fun _ i hi => ?_
      · simp only [List.forall_mem_cons, List.not_mem_nil, IsEmpty.forall_iff, implies_true, and_true, hlen,
          length_usrDtlsEntry]
        omega
      · have hclear : Clear ((entrySize s).toNat + 2) ((entrySize s).toNat + 2 + 2) ((entrySize s).toNat + 4)
            ((List.range n.toNat).map data) := Or.inr (Nat.le_refl _)
        rw [htotal, Marked.puts_cons, Marked.puts_cons, Marked.puts_nil]
        dsimp only
        rw [Marked.half_put hclear, Nat.add_zero, half_usrDtlsEntry]
      · rw [htotal] at hi
        by_cases hlow : i < 4
        · refine ⟨(0, usrDtlsEntry version type n), by simp, Nat.zero_le i, ?_⟩
          rw [length_usrDtlsEntry]
          omega
        · refine ⟨(4, (List.range n.toNat).map data), by simp, Nat.le_of_not_lt hlow, ?_⟩
          rw [hlen]
          omega
    · exact .none
  · exact .none

theorem copy_inside (env : TraceEnv) (comp : TraceComp) (ioSize : Nat) :
    (env.copy comp ioSize).size ≤ ioSize ∧ ∀ w ∈ (env.copy comp ioSize).writes, w.1 + w.2.length ≤ ioSize :=
  ⟨Trac.tracGetBufferPartial_size, Trac.tracGetBufferPartial_inside (Trac.tracedBuf_ready comp _)⟩

theorem copy_fills {env : TraceEnv} {comp : TraceComp} {ioSize i : Nat} (hlocked : env.locked comp = true)
    (hi : i < (env.copy comp ioSize).size) : ∃ w ∈ (env.copy comp ioSize).writes, w.1 ≤ i ∧ i < w.1 + w.2.length := by
  have hsize := (copy_inside env comp ioSize).1
  have hroom : 40 ≤ ioSize := by
    have hne : (env.copy comp ioSize).size ≠ 0 := by omega
    exact Trac.tracGetBufferPartial_room hne
  refine ⟨(0, List.replicate ioSize 0), ?_, Nat.zero_le i, ?_⟩
  · unfold TraceEnv.copy
    rw [hlocked]
    exact Trac.tracGetBufferPartial_fills hroom
  · rw [List.length_replicate]
    omega

end

/-! ## Traces -/

/-- Some writes from `addr` on lead from a slot to another one; they stay within `room` bytes, and fill the first `n` of them
if `full`. -/
def Copied (full : Prop) (s : Slot) (addr room : Nat) (s' : Slot) (n : Nat) : Prop :=
  ∃ ws, s' = s.puts addr ws ∧ (∀ w ∈ ws, w.1 + w.2.length ≤ room) ∧ n ≤ room ∧
    (full → ∀ i < n, ∃ w ∈ ws, w.1 ≤ i ∧ i < w.1 + w.2.length)

namespace Copied

variable {full : Prop} {s s₁ s₂ : Slot} {addr room room₁ room₂ n₁ n₂ : Nat}

theorem nothing : Copied full s addr room s 0 :=
  ⟨[], rfl, nofun, Nat.zero_le _, fun _ _ hi => absurd hi (Nat.not_lt_zero _)⟩

theorem copy (s : Slot) (addr : Nat) {env : TraceEnv} {comp : TraceComp} (ioSize : Nat) (hlocked : full → env.locked comp = true) :
    Copied full s addr ioSize (s.puts addr (env.copy comp ioSize).writes) (env.copy comp ioSize).size := by
  obtain ⟨hle, hinside⟩ := copy_inside env comp ioSize
  exact ⟨_, rfl, hinside, hle, fun hf _ hi => copy_fills (hlocked hf) hi⟩

/-- A copy behind what the last one has filled. -/
theorem append (h₁ : Copied full s addr room₁ s₁ n₁) (h₂ : Copied full s₁ (addr + n₁) room₂ s₂ n₂) (hroom₁ : room₁ ≤ room)
    (hroom₂ : n₁ + room₂ ≤ room) : Copied full s addr room s₂ (n₁ + n₂) := by
  obtain ⟨ws, rfl, hin₁, hle₁, hfull₁⟩ := h₁
  obtain ⟨vs, rfl, hin₂, hle₂, hfull₂⟩ := h₂
  refine ⟨ws ++ vs.map fun w => (n₁ + w.1, w.2), ?_, ?_, by omega, ?_⟩
  · rw [Marked.puts_append, ← Marked.puts_shift]
  · intro w hw
    obtain hw | hw := List.mem_append.1 hw
    · have hin := hin₁ w hw
      omega
    · obtain ⟨v, hv, rfl⟩ := List.mem_map.1 hw
      have hin := hin₂ v hv
      dsimp only
      omega
  · intro hf i hi
    by_cases hfirst : i < n₁
    · obtain ⟨w, hw, hcovers⟩ := hfull₁ hf i hfirst
      exact ⟨w, List.mem_append_left _ hw, hcovers⟩
    · obtain ⟨w, hw, hlo, hhi⟩ := hfull₂ hf (i - n₁) (by omega)
      refine ⟨_, List.mem_append_right _ (List.mem_map_of_mem hw), ?_, ?_⟩
      · dsimp only
        omega
      · dsimp only
        omega

end Copied

/-- The buffers that the data of a trace section are from, whose semaphores are pended for. -/
def tracePends (trace : Option TraceComp) (size : BitVec 16) : List TraceComp :=
  match trace with
  | some comp => if traceBufHeadSize ≤ size.toNat then [comp] else []
  | none =>
    if traceBufHeadSize ≤ size.toNat / 3 then [.err, .imp, .inf]
    else if traceBufHeadSize < size.toNat then [.err]
    else []

/-- Every pend for a trace section of a size succeeds. -/
def TraceEnv.Locks (env : TraceEnv) (trace : Option TraceComp) (size : BitVec 16) : Prop :=
  ∀ comp ∈ tracePends trace size, env.locked comp = true

instance (env : TraceEnv) (trace : Option TraceComp) (size : BitVec 16) : Decidable (env.Locks trace size) :=
  inferInstanceAs (Decidable (∀ comp ∈ tracePends trace size, env.locked comp = true))

theorem TraceEnv.Locks.mono {env : TraceEnv} {trace : Option TraceComp} {size size' : BitVec 16} (h : env.Locks trace size)
    (hle : size'.toNat ≤ size.toNat) : env.Locks trace size' := by
  intro comp hcomp
  refine h comp ?_
  unfold tracePends at hcomp ⊢
  split at hcomp
  · split at hcomp
    · rwa [if_pos (by omega)]
    · cases hcomp
  · split at hcomp
    · rwa [if_pos (by omega)]
    · split at hcomp
      · obtain rfl := List.mem_singleton.1 hcomp
        split
        · exact List.mem_cons_self
        · rw [if_pos (by omega)]
          exact List.mem_cons_self
      · cases hcomp

/-- The pends of `addTraceToErrl` succeed, if it passes its checks. -/
def TraceLocks (s : Slot) (trace : Option TraceComp) (traceSz : BitVec 16) (env : TraceEnv) : Prop :=
  committed s = false ∧ traceSz ≠ 0 ∧ (entrySize s).toNat + sizeofUsrDtlsEntry.toNat < (maxSize s).toNat →
    env.Locks trace (if traceSz < availableSize s then traceSz else availableSize s)

instance (s : Slot) (trace : Option TraceComp) (traceSz : BitVec 16) (env : TraceEnv) :
    Decidable (TraceLocks s trace traceSz env) := inferInstanceAs (Decidable (_ → _))

section
variable (s : Slot) (addr : Nat) (trace : Option TraceComp) (size : BitVec 16) (env : TraceEnv)

/-- The data of a trace section stay within the size, and fill what they say if the pends succeed. -/
theorem traceData_copied : Copied (env.Locks trace size) s addr size.toNat (traceData s addr trace size env).1
    (traceData s addr trace size env).2.toNat := by
  have hsize := size.isLt
  have hone : ∀ comp, comp ∈ tracePends trace size → Copied (env.Locks trace size) s addr size.toNat
      (s.puts addr (env.copy comp size.toNat).writes) (BitVec.ofNat 16 (env.copy comp size.toNat).size).toNat := by
    intro comp hcomp
    have hle := (copy_inside env comp size.toNat).1
    rw [BitVec.toNat_ofNat, Nat.mod_eq_of_lt (by omega)]
    exact .copy s addr size.toNat fun hlocks => hlocks comp hcomp
  unfold traceData
  unfold tracePends at hone
  split
  · split
    · rename_i hhead
      exact hone _ (by simp [hhead])
    · exact .nothing
  · dsimp only
    split
    · rename_i hhead
      have hlocked : ∀ comp ∈ [TraceComp.err, .imp, .inf], env.Locks none size → env.locked comp = true := by
        intro comp hcomp hlocks
        refine hlocks comp ?_
        unfold tracePends
        rwa [if_pos hhead]
      have herr := Copied.copy s addr (size.toNat / 3) (hlocked .err (by simp))
      set err := env.copy .err (size.toNat / 3)
      have herrSize : err.size ≤ size.toNat / 3 := herr.choose_spec.2.2.1
      have himp := Copied.copy (s.puts addr err.writes) (addr + err.size) ((size.toNat - err.size) / 2)
        (hlocked .imp (by simp))
      set imp := env.copy .imp ((size.toNat - err.size) / 2)
      have himpSize : imp.size ≤ (size.toNat - err.size) / 2 := himp.choose_spec.2.2.1
      have hinf := Copied.copy ((s.puts addr err.writes).puts (addr + err.size) imp.writes) (addr + err.size + imp.size)
        (size.toNat - err.size - imp.size) (hlocked .inf (by simp))
      set inf := env.copy .inf (size.toNat - err.size - imp.size)
      have hinfSize : inf.size ≤ size.toNat - err.size - imp.size := hinf.choose_spec.2.2.1
      have htwo : Copied _ s addr size.toNat _ (err.size + imp.size) := herr.append himp (by omega) (by omega)
      rw [BitVec.toNat_ofNat, Nat.mod_eq_of_lt (by omega)]
      dsimp only
      rw [Nat.add_assoc addr] at hinf ⊢
      refine htwo.append hinf (Nat.le_refl _) ?_
      omega
    · rename_i hhead
      split
      · rename_i hroom
        exact hone .err (by simp [hhead, hroom])
      · exact .nothing

theorem addTraceToErrl_change (traceSz : BitVec 16) :
    Change (TraceLocks s trace traceSz env) s (addTraceToErrl s trace traceSz env) := by
  have hfour : sizeofUsrDtlsEntry.toNat = 4 := rfl
  unfold addTraceToErrl
  split
  · rename_i h
    have hchecks := h
    obtain ⟨hcommitted, hsize, hroom⟩ := h
    rw [hfour] at hroom
    have havail := availableSize_toNat s (by omega)
    have hmin := minSize_toNat traceSz (availableSize s)
    dsimp only
    set n := if traceSz < availableSize s then traceSz else availableSize s
    obtain ⟨ws, hputs, hin, hle, hfull⟩ := traceData_copied s ((entrySize s).toNat + 4) trace n env
    have hmax := (maxSize s).isLt
    set m := (traceData s ((entrySize s).toNat + 4) trace n env).2
    rw [hputs, Marked.puts_shift]
    split
    · have htotal : (m + sizeofUsrDtlsEntry).toNat = 4 + m.toNat := by
        rw [BitVec.toNat_add, hfour]
        omega
      rw [← Marked.puts_append]
      refine .details hcommitted ?_ (by rw [htotal]; omega) (Or.inr ?_) fun hlocked i hi => ?_
      · intro w hw
        obtain hw | hw := List.mem_append.1 hw
        · obtain ⟨v, hv, rfl⟩ := List.mem_map.1 hw
          have hv' := hin v hv
          dsimp only
          omega
        · obtain rfl := List.mem_singleton.1 hw
          rw [length_usrDtlsEntry]
          omega
      · rw [htotal, Marked.puts_append, Marked.puts_cons, Marked.puts_nil, Nat.add_zero, half_usrDtlsEntry]
      · rw [htotal] at hi
        by_cases hlow : i < 4
        · refine ⟨(0, usrDtlsEntry 0x00 0x01 m), by simp, Nat.zero_le i, ?_⟩
          rw [length_usrDtlsEntry]
          omega
        · obtain ⟨w, hw, hlo, hhi⟩ := hfull (hlocked hchecks) (i - 4) (by omega)
          refine ⟨_, List.mem_append_left _ (List.mem_map_of_mem hw), ?_, ?_⟩
          · dsimp only
            omega
          · dsimp only
            omega
    · refine .details hcommitted ?_ (by rw [show (0 : BitVec 16).toNat = 0 from rfl]; omega) (Or.inl rfl) fun _ i hi => ?_
      · intro w hw
        obtain ⟨v, hv, rfl⟩ := List.mem_map.1 hw
        have hv' := hin v hv
        dsimp only
        omega
      · exact absurd hi (Nat.not_lt_zero i)
  · exact .none

end

/-! ## Fields -/

section
variable (s : Slot) {full : Prop}

theorem setErrlActions_change (mask : Byte) : Change full s (setErrlActions s mask) := by
  unfold setErrlActions
  split
  · rename_i hcommitted
    refine .fields hcommitted fun w hw => ?_
    obtain rfl := List.mem_singleton.1 hw
    exact .low (by decide) (by simp)
  · exact .none

theorem addCalloutToErrl_writes (type : Byte) (calloutValue : BitVec 64) (priority : Byte) :
    ∃ ws, Slot.addCalloutToErrl s type calloutValue priority = s.puts 0 ws ∧ ∀ w ∈ ws, CallWrite w := by
  have hsix : maxCallouts = 6 := rfl
  unfold Slot.addCalloutToErrl
  split
  · rename_i h
    obtain ⟨-, -, hroom⟩ := h
    refine ⟨_, rfl, ?_⟩
    simp only [List.forall_mem_cons, List.not_mem_nil, IsEmpty.forall_iff, implies_true, and_true]
    refine ⟨.callouts (by omega) ?_, .callouts (by omega) ?_, .callouts (by omega) ?_, .numCallouts ?_⟩
    · rw [List.length_singleton]
      omega
    · rw [Bytes.length_ofWord]
      omega
    · rw [List.length_singleton]
      omega
    · rw [BitVec.toNat_add]
      have hone : (1 : Byte).toNat = 1 := rfl
      omega
  · exact ⟨[], rfl, nofun⟩

theorem addCalloutToErrl_change (type : Byte) (calloutValue : BitVec 64) (priority : Byte) :
    Change full s (Slot.addCalloutToErrl s type calloutValue priority) := by
  by_cases hcommitted : committed s = false
  · obtain ⟨ws, heq, hws⟩ := addCalloutToErrl_writes s type calloutValue priority
    rw [heq]
    exact .fields hcommitted hws
  · unfold Slot.addCalloutToErrl
    rw [if_neg fun h => hcommitted h.1]
    exact .none

theorem setErrlSevToInfo_change (h : (numCallouts s).toNat ≤ maxCallouts) : Change full s (setErrlSevToInfo s) := by
  have hsix : maxCallouts = 6 := rfl
  unfold setErrlSevToInfo
  split
  · rename_i hcommitted
    refine .fields hcommitted ?_
    simp only [List.forall_mem_cons, List.not_mem_nil, IsEmpty.forall_iff, implies_true, and_true]
    refine ⟨.low (by decide) (by simp), .callouts (Nat.le_refl _) ?_, .numCallouts (Nat.zero_le _)⟩
    rw [List.length_replicate]
    omega
  · exact .none

end

end Occ.Errl
