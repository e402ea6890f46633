/-
Reading the flash through the windows of the BMC: whatever it answers, a read that ends has transferred what was
requested or reports an error.
-/
import Occ.Firdata.FlashWindow

namespace Occ.Firdata

/-! ## Reading -/

section Read

variable {undefinedShift : BitVec 32 → BitVec 32 → BitVec 32} {turns : Nat → Turn} {m m' : PnorMbox}
  {addr addr₀ size : BitVec 32} {pos total fuel : Nat} {log : List Event} {failed : Bool}

/-- What the loop of a read does from the byte `pos` on, however the BMC behaves. -/
theorem readLoop_served
    (h : readLoop undefinedShift fuel turns m addr size pos = some (log, m', failed))
    (haddr : addr = addr₀ + BitVec.ofNat 32 pos) (htotal : pos + size.toNat = total) :
    (∀ e ∈ log, e.Sound addr₀ total) ∧
      (failed = false → log.flatMap Event.bytes = List.range' pos size.toNat) ∧
      ((∃ e ∈ log, e.fails = true) → failed = true) := by
  induction fuel generalizing turns m addr size pos log with
  | zero => cases h
  | succ fuel ih =>
    unfold readLoop at h
    by_cases hsize : size = 0
    · rw [if_pos hsize] at h
      cases h
      refine ⟨nofun, fun _ => ?_, ?_⟩
      · rw [hsize]
        rfl
      · rintro ⟨e, he, _⟩
        cases he
    · rw [if_neg hsize] at h
      cases hadj : adjustMboxWindow undefinedShift fuel (turns 0).windows m false addr size with
      | none => rw [hadj] at h; cases h
      | some r =>
        obtain ⟨logw, w, chunk⟩ := r
        obtain ⟨hsettles, hplace, hcommands, hfailed⟩ := adjustMboxWindow_spec hadj
        rw [hadj] at h
        cases chunk with
        | none =>
          cases h
          exact ⟨fun e he => (hcommands e he).1 _ _, nofun, fun _ => rfl⟩
        | some c =>
          cases hplace c rfl
          have hnone : ¬∃ e ∈ logw, e.fails = true := fun hex => nomatch hfailed.1 hex
          have hquiet : logw.flatMap Event.bytes = [] := by
            rw [List.flatMap_eq_nil_iff]
            exact fun e he => (hcommands e he).2
          have hcovers : w.covers false addr = true := hsettles.covers rfl
          have hlen := @chunkLen_toNat w addr size
          have hsound := @sound_access _ _ _ hcovers _ _ total 0 (w.chunkLen addr size).toNat
            ((turns 0).lpcFails 0) haddr (by omega) (by omega)
          rw [show w.lpcAddr addr + BitVec.ofNat 32 0 = w.lpcAddr addr from BitVec.add_zero _] at hsound
          simp only at h
          cases hlpc : (turns 0).lpcFails 0 with
          | true =>
            rw [hlpc, if_pos rfl] at h
            cases h
            refine ⟨fun e he => ?_, nofun, fun _ => rfl⟩
            rcases List.mem_append.1 he with he | he
            · exact (hcommands e he).1 _ _
            · cases List.mem_singleton.1 he
              rw [hlpc] at hsound
              exact hsound
          | false =>
            rw [hlpc, if_neg (by decide)] at h
            obtain ⟨⟨log', m₂, failed'⟩, hrec, heq⟩ := Option.map_eq_some_iff.1 h
            cases heq
            have hle : (w.chunkLen addr size).toNat ≤ size.toNat := by omega
            have hrest : (size - w.chunkLen addr size).toNat = size.toNat - (w.chunkLen addr size).toNat :=
              BitVec.toNat_sub_of_le (BitVec.le_def.2 hle)
            obtain ⟨hsound', hwhole, hreported⟩ := ih hrec
              (by rw [haddr, BitVec.ofNat_add, BitVec.add_assoc, BitVec.ofNat_toNat, BitVec.setWidth_eq])
              (by omega)
            refine ⟨fun e he => ?_, fun hok => ?_, ?_⟩
            · rcases List.mem_append.1 he with he | he
              · rcases List.mem_append.1 he with he | he
                · exact (hcommands e he).1 _ _
                · cases List.mem_singleton.1 he
                  rw [hlpc] at hsound
                  exact hsound
              · rcases List.mem_cons.1 he with rfl | he
                · exact hle
                · exact hsound' e he
            · simp only [List.flatMap_append, hquiet, List.flatMap_cons, List.flatMap_nil, Event.bytes_access,
                Event.bytes_advance, List.nil_append, List.append_nil, hwhole hok, hrest, List.range'_append_1, Nat.add_sub_cancel' hle]
            · rintro ⟨e, he, hf⟩
              refine hreported ?_
              rcases List.mem_append.1 he with he | he
              · rcases List.mem_append.1 he with he | he
                · exact absurd ⟨e, he, hf⟩ hnone
                · cases List.mem_singleton.1 he
                  cases hf
              · rcases List.mem_cons.1 he with rfl | he
                · cases hf
                · exact ⟨e, he, hf⟩

theorem readLoop_mono {k : Nat} {r : List Event × PnorMbox × Bool}
    (h : readLoop undefinedShift fuel turns m addr size pos = some r) :
    readLoop undefinedShift (fuel + k) turns m addr size pos = some r := by
  induction fuel generalizing turns m addr size pos r with
  | zero => cases h
  | succ fuel ih =>
    rw [show fuel + 1 + k = fuel + k + 1 by omega]
    unfold readLoop at h ⊢
    split at h
    · rename_i hsize
      rw [if_pos hsize]
      exact h
    · rename_i hsize
      rw [if_neg hsize]
      cases hadj : adjustMboxWindow undefinedShift fuel (turns 0).windows m false addr size with
      | none => rw [hadj] at h; cases h
      | some w =>
        obtain ⟨logw, w, chunk⟩ := w
        rw [hadj] at h
        rw [adjustMboxWindow_mono hadj]
        cases chunk with
        | none => exact h
        | some c =>
          simp only at h ⊢
          split at h
          · rename_i hlpc
            rw [if_pos hlpc]
            exact h
          · rename_i hlpc
            rw [if_neg hlpc]
            obtain ⟨r', hrec, heq⟩ := Option.map_eq_some_iff.1 h
            exact Option.map_eq_some_iff.2 ⟨r', ih hrec, heq⟩

/-- A read whose rounds get their windows ends. -/
theorem readLoop_ends (h : RoundsSettle undefinedShift false turns ⟨m, addr, size⟩) :
    ∃ fuel r, readLoop undefinedShift fuel turns m addr size pos = some r := by
  generalize hn : size.toNat = n
  induction n using Nat.strong_induction_on generalizing turns m addr size pos with
  | _ n ih =>
    by_cases hsize : size = 0
    · exact ⟨1, _, if_pos hsize⟩
    · obtain ⟨out, hout⟩ := h 0 _ .start hsize
      obtain ⟨f₁, ⟨logw, w, chunk⟩, hadj⟩ := @Settles.adjust _ _ _ _ size _ _ hout
      obtain ⟨hsettles, hplace, _, _⟩ := adjustMboxWindow_spec hadj
      cases chunk with
      | none =>
        refine ⟨f₁ + 1, ?_⟩
        unfold readLoop
        rw [if_neg hsize, hadj]
        exact ⟨_, rfl⟩
      | some c =>
        cases hplace c rfl
        cases hlpc : (turns 0).lpcFails 0 with
        | true =>
          refine ⟨f₁ + 1, ?_⟩
          unfold readLoop
          rw [if_neg hsize, hadj]
          simp only [hlpc, if_true]
          exact ⟨_, rfl⟩
        | false =>
          have hgo : (turns 0).goesOn false = true := by
            unfold Turn.goesOn
            rw [if_neg (by decide), hlpc]
            rfl
          have hlen := @chunkLen_toNat w addr size
          have hcovers : w.covers false addr = true := hsettles.covers rfl
          have hpos := chunkLen_pos hcovers (size_pos hsize)
          have hrest : (size - w.chunkLen addr size).toNat = size.toNat - (w.chunkLen addr size).toNat :=
            BitVec.toNat_sub_of_le (BitVec.le_def.2 (by omega))
          obtain ⟨f₂, r, hrec⟩ := @ih (size - w.chunkLen addr size).toNat (by omega) (fun n => turns (n + 1)) w
            (addr + w.chunkLen addr size) (size - w.chunkLen addr size) (pos + (w.chunkLen addr size).toNat)
            (fun i r hr => h (i + 1) r (hr.tail (r := ⟨m, addr, size⟩) hsize hsettles hgo)) rfl
          refine ⟨f₁ + f₂ + 1, ?_⟩
          unfold readLoop
          rw [if_neg hsize, adjustMboxWindow_mono hadj]
          simp only [hlpc, Bool.false_eq_true, if_false]
          rw [show f₁ + f₂ = f₂ + f₁ by omega, readLoop_mono hrec]
          exact ⟨_, rfl⟩

/-- In a read that ends, every round gets its window. -/
theorem readLoop_settles {r : List Event × PnorMbox × Bool}
    (h : readLoop undefinedShift fuel turns m addr size pos = some r) :
    RoundsSettle undefinedShift false turns ⟨m, addr, size⟩ := by
  induction fuel generalizing turns m addr size pos r with
  | zero => cases h
  | succ fuel ih =>
    unfold readLoop at h
    by_cases hsize : size = 0
    · intro i r hr
      refine hr.cons (P := fun i r => r.size ≠ 0 → _) (fun hne => absurd hsize hne) ?_
      intro m' hne
      exact absurd hsize hne
    · rw [if_neg hsize] at h
      cases hadj : adjustMboxWindow undefinedShift fuel (turns 0).windows m false addr size with
      | none => rw [hadj] at h; cases h
      | some w =>
        obtain ⟨logw, w, chunk⟩ := w
        obtain ⟨hsettles, hplace, _, _⟩ := adjustMboxWindow_spec hadj
        rw [hadj] at h
        intro i r hr
        refine hr.cons (P := fun i r => r.size ≠ 0 → ∃ out, Settles undefinedShift false r.addr (turns i).windows
          r.mbox out) (fun _ => ⟨_, hsettles⟩) fun m' _ hs hgo j r' hr' => ?_
        have heq := hsettles.unique hs
        cases chunk with
        | none => cases heq
        | some c =>
          cases hplace c rfl
          cases heq
          have hlpc : (turns 0).lpcFails 0 = false := by
            unfold Turn.goesOn at hgo
            simpa using hgo
          simp only [hlpc, Bool.false_eq_true, if_false] at h
          obtain ⟨r₂, hrec, _⟩ := Option.map_eq_some_iff.1 h
          exact ih hrec j r' hr'

/-- A read owes nothing to the BMC but its end. -/
theorem readLaw_iff : ReadLaw undefinedShift turns m addr size ↔ ReadOk undefinedShift turns m addr size := by
  unfold ReadLaw ReadOk readFlash
  by_cases halign : size.toNat % 4 ≠ 0 ∧ addr.toNat % 4 ≠ 0
  · simp only [if_pos halign]
    constructor
    · exact fun _ => .inl halign
    · intro _
      refine ⟨0, _, _, _, rfl, nofun, nofun, ?_⟩
      rintro ⟨e, he, _⟩
      cases he
  · simp only [if_neg halign]
    constructor
    · rintro ⟨fuel, log, m', failed, h, _⟩
      exact .inr (readLoop_settles h)
    · rintro (h | h)
      · exact absurd h halign
      · obtain ⟨fuel, ⟨log, m', failed⟩, hloop⟩ := @readLoop_ends _ _ _ _ _ 0 h
        obtain ⟨hsound, hwhole, hreported⟩ := @readLoop_served _ _ _ _ _ addr _ _ size.toNat _ _ _ hloop
          (BitVec.add_zero addr).symm (Nat.zero_add _)
        refine ⟨fuel, log, m', failed, hloop, hsound, fun hok => ?_, hreported⟩
        rw [hwhole hok, List.range_eq_range']

end Read

end Occ.Firdata
