/-
Logs that are contained: every byte that is written for a log is within its maximum size, and the sections of user details
fill it exactly to its size. Creation makes such a log in a slot that is cleared, calls and the commit keep it, and deletion
clears the slot again.
-/
import Occ.Errl.Changes

namespace Occ.Errl

open Occ.Marked (Clear)
open Occ.Staged (Byte Memory)

open Slot

/-! ## Logs that are contained -/

/-- Sections from `a` on fill the memory up to `stop`. -/
inductive Sections (m : Memory) : Nat → Nat → Prop
  | nil (a : Nat) : Sections m a a
  | cons {a stop : Nat} : Sections m (a + 4 + (half m (a + 2)).toNat) stop → Sections m a stop

structure Contained (s : Slot) : Prop where
  base : sizeofErrlEntry ≤ (entrySize s).toNat
  size : (entrySize s).toNat ≤ (maxSize s).toNat
  details : (userDetailEntrySize s).toNat + sizeofErrlEntry = (entrySize s).toNat
  callouts : (numCallouts s).toNat ≤ maxCallouts
  sections : Sections s.mem sizeofErrlEntry (entrySize s).toNat
  written : ∀ x, s.written x = true → x < (maxSize s).toNat

namespace Sections

variable {m m' : Memory} {a stop : Nat}

theorem le (h : Sections m a stop) : a ≤ stop := by
  induction h with
  | nil a => exact Nat.le_refl a
  | cons _ ih => omega

theorem congr (h : Sections m a stop) (heq : ∀ x, a ≤ x → x < stop → m' x = m x) : Sections m' a stop := by
  induction h with
  | nil a => exact .nil a
  | @cons a stop h ih =>
    have hle := h.le
    have hhalf : half m' (a + 2) = half m (a + 2) := by
      unfold half
      rw [heq (a + 2) (by omega) (by omega), heq (a + 2 + 1) (by omega) (by omega)]
    refine .cons ?_
    rw [hhalf]
    exact ih fun x hx hx' => heq x (by omega) hx'

theorem snoc (h : Sections m a stop) : Sections m a (stop + (4 + (half m (stop + 2)).toNat)) := by
  induction h with
  | nil a =>
    refine .cons ?_
    rw [Nat.add_assoc]
    exact .nil _
  | cons _ ih => exact .cons ih

end Sections

/-! ## Writes to fields -/

/-- A write to the fields of a log, but for its sizes. -/
inductive FieldWrite : Nat × List Byte → Prop
  | low {a : Nat} {bs : List Byte} : a + bs.length ≤ 7 → FieldWrite (a, bs)
  | extendedRc {a : Nat} {bs : List Byte} : 9 ≤ a → a + bs.length ≤ 11 → FieldWrite (a, bs)
  | numCallouts {n : Byte} : n.toNat ≤ maxCallouts → FieldWrite (11, [n])
  | high {a : Nat} {bs : List Byte} : 12 ≤ a → a + bs.length ≤ 116 → FieldWrite (a, bs)

theorem CallWrite.field {w : Nat × List Byte} (h : CallWrite w) : FieldWrite w := by
  cases h with
  | low _ hhi => exact .low hhi
  | numCallouts hn => exact .numCallouts hn
  | callouts hlo hhi => exact .high hlo (by omega)

section
variable {s s' : Slot} {w : Nat × List Byte} {ws : List (Nat × List Byte)} {n : BitVec 16}

theorem FieldWrite.clear (h : FieldWrite w) : Clear 7 9 (0 + w.1) w.2 ∧ 0 + w.1 + w.2.length ≤ 116 := by
  unfold Clear
  cases h with
  | low hhi =>
    dsimp only
    omega
  | extendedRc hlo hhi =>
    dsimp only
    omega
  | numCallouts hn =>
    dsimp only
    rw [List.length_singleton]
    omega
  | high hlo hhi =>
    dsimp only
    omega

theorem FieldWrite.callouts (h : FieldWrite w) (hs : (Slot.numCallouts s).toNat ≤ maxCallouts) :
    (Slot.numCallouts (s.put (0 + w.1) w.2)).toNat ≤ maxCallouts := by
  have hkeep : Clear 11 12 (0 + w.1) w.2 → (Slot.numCallouts (s.put (0 + w.1) w.2)).toNat ≤ maxCallouts := by
    intro hclear
    unfold Slot.numCallouts
    rw [Marked.put_byte hclear]
    exact hs
  unfold Clear at hkeep
  cases h with
  | low hhi => exact hkeep (by dsimp only; omega)
  | extendedRc hlo hhi => exact hkeep (by dsimp only; omega)
  | numCallouts hn => exact hn
  | high hlo hhi => exact hkeep (by dsimp only; omega)

/-- Fields are written. -/
theorem Contained.puts (h : Contained s) (hws : ∀ w ∈ ws, FieldWrite w) : Contained (s.puts 0 ws) := by
  refine Marked.puts_invariant (P := Contained) (fun s w hw hs => ?_) h
  obtain ⟨hclear, hhigh⟩ := (hws w hw).clear
  have hmax : maxSize (s.put (0 + w.1) w.2) = maxSize s := Marked.half_put hclear
  have hsize : entrySize (s.put (0 + w.1) w.2) = entrySize s := Marked.half_put (Or.inl (by omega))
  have hdetails : userDetailEntrySize (s.put (0 + w.1) w.2) = userDetailEntrySize s := Marked.half_put (Or.inl (by omega))
  have hbase := hs.base
  have hle := hs.size
  have hentry : sizeofErrlEntry = 120 := rfl
  refine ⟨?_, ?_, ?_, (hws w hw).callouts hs.callouts, ?_, fun x hx => ?_⟩
  · rw [hsize]
    exact hs.base
  · rw [hsize, hmax]
    exact hs.size
  · rw [hdetails, hsize]
    exact hs.details
  · rw [hsize]
    exact hs.sections.congr fun x hx _ => Staged.write_above (by omega)
  · rw [hmax]
    obtain hx | hx := Marked.put_written.1 hx
    · exact hs.written x hx
    · omega

/-- Bytes behind the log are written. -/
theorem Contained.behind (h : Contained s)
    (hws : ∀ w ∈ ws, (entrySize s).toNat + w.1 + w.2.length ≤ (maxSize s).toNat) :
    Contained (s.puts (entrySize s).toNat ws) := by
  have hbase := h.base
  have hentry : sizeofErrlEntry = 120 := rfl
  have hkeep : ∀ lo hi, hi ≤ 120 → ∀ w ∈ ws, Clear lo hi ((entrySize s).toNat + w.1) w.2 :=
    fun lo hi hhi w _ => Or.inr (by omega)
  have hmax : maxSize (s.puts (entrySize s).toNat ws) = maxSize s := Marked.half_puts (hkeep 7 9 (by decide))
  have hsize : entrySize (s.puts (entrySize s).toNat ws) = entrySize s := Marked.half_puts (hkeep 116 118 (by decide))
  have hdetails : userDetailEntrySize (s.puts (entrySize s).toNat ws) = userDetailEntrySize s :=
    Marked.half_puts (hkeep 118 120 (by decide))
  have hcallouts : numCallouts (s.puts (entrySize s).toNat ws) = numCallouts s :=
    Marked.puts_byte (hkeep 11 12 (by decide))
  refine ⟨?_, ?_, ?_, ?_, ?_, fun x hx => ?_⟩
  · rw [hsize]
    exact h.base
  · rw [hsize, hmax]
    exact h.size
  · rw [hdetails, hsize]
    exact h.details
  · rw [hcallouts]
    exact h.callouts
  · rw [hsize]
    refine h.sections.congr fun x hx hx' => ?_
    exact Marked.puts_byte fun w _ => Or.inr (by omega)
  · rw [hmax]
    obtain hx | ⟨w, hw, hlo, hhi⟩ := Marked.puts_written hx
    · exact h.written x hx
    · have hin := hws w hw
      omega

/-! ## Sizes -/

section
variable (s : Slot) (n : BitVec 16)

theorem entrySize_addSizes : entrySize (addSizes s n) = entrySize s + n := by
  unfold addSizes
  rw [Marked.puts_cons, Marked.puts_cons, Marked.puts_nil]
  exact Marked.half_put_self _

theorem userDetailEntrySize_addSizes : userDetailEntrySize (addSizes s n) = userDetailEntrySize s + n := by
  have hclear : Clear 118 120 116 (Bytes.ofWord 2 (entrySize s + n)) := Or.inl (by simp)
  unfold addSizes
  rw [Marked.puts_cons, Marked.puts_cons, Marked.puts_nil]
  exact (Marked.half_put hclear).trans (Marked.half_put_self _)

theorem addSizes_clear {lo hi : Nat} (h : hi ≤ 116 ∨ 120 ≤ lo) :
    ∀ w ∈ [(118, Bytes.ofWord 2 (userDetailEntrySize s + n)), (116, Bytes.ofWord 2 (entrySize s + n))],
      Clear lo hi (0 + w.1) w.2 := by
  simp only [List.forall_mem_cons, List.not_mem_nil, IsEmpty.forall_iff, implies_true, and_true]
  unfold Clear
  rw [Bytes.length_ofWord, Bytes.length_ofWord]
  omega

theorem maxSize_addSizes : maxSize (addSizes s n) = maxSize s := Marked.half_puts (addSizes_clear s n (Or.inl (by decide)))

theorem mem_addSizes {x : Nat} (h : x < 116 ∨ 120 ≤ x) : (addSizes s n).mem x = s.mem x :=
  Marked.puts_byte (addSizes_clear s n (by omega))

end

/-- The sizes grow to the end of the next section. -/
theorem Contained.addSizes (h : Contained s) (hroom : (entrySize s).toNat + n.toNat ≤ (maxSize s).toNat)
    (hsections : Sections s.mem sizeofErrlEntry ((entrySize s).toNat + n.toNat)) : Contained (addSizes s n) := by
  have hmaxLt := (maxSize s).isLt
  have hentry : sizeofErrlEntry = 120 := rfl
  have hbase := h.base
  have hdetailsEq := h.details
  have hsize : (entrySize (Slot.addSizes s n)).toNat = (entrySize s).toNat + n.toNat := by
    rw [entrySize_addSizes, BitVec.toNat_add]
    omega
  have hdetails : (userDetailEntrySize (Slot.addSizes s n)).toNat = (userDetailEntrySize s).toNat + n.toNat := by
    rw [userDetailEntrySize_addSizes, BitVec.toNat_add]
    omega
  refine ⟨?_, ?_, ?_, ?_, ?_, fun x hx => ?_⟩
  · omega
  · rw [hsize, maxSize_addSizes]
    exact hroom
  · omega
  · unfold numCallouts
    rw [mem_addSizes s n (Or.inl (by decide))]
    exact h.callouts
  · rw [hsize]
    exact hsections.congr fun x hx _ => mem_addSizes s n (Or.inr hx)
  · rw [maxSize_addSizes]
    have hsizeLe := h.size
    obtain hx | ⟨w, hw, hlo, hhi⟩ := Marked.puts_written hx
    · exact h.written x hx
    · simp only [List.mem_cons, List.not_mem_nil, or_false] at hw
      obtain rfl | rfl := hw
      · rw [Bytes.length_ofWord] at hhi
        dsimp only at hhi
        omega
      · rw [Bytes.length_ofWord] at hhi
        dsimp only at hhi
        omega

/-- What a call does keeps a log contained. -/
theorem Change.contained {full : Prop} (hc : Change full s s') (h : Contained s) : Contained s' := by
  cases hc with
  | none => exact h
  | fields _ hws => exact h.puts fun w hw => (hws w hw).field
  | @details ws n _ hin hroom hheader _ =>
    have hbehind := h.behind hin
    have hentry : sizeofErrlEntry = 120 := rfl
    have hbase := h.base
    have hsize : entrySize (s.puts (entrySize s).toNat ws) = entrySize s :=
      Marked.half_puts fun w _ => Or.inr (by omega)
    have hmax : maxSize (s.puts (entrySize s).toNat ws) = maxSize s :=
      Marked.half_puts fun w _ => Or.inr (by omega)
    refine hbehind.addSizes ?_ ?_
    · rw [hsize, hmax]
      exact hroom
    · have hsections := hbehind.sections
      obtain rfl | hn := hheader
      · exact hsections
      · have hsnoc := hsections.snoc
        rw [hsize] at hsnoc ⊢
        rw [hn]
        exact hsnoc

end

/-! ## One log over several calls -/

/-- From one slot to the next a log stays contained, and keeps its maximum size and its id. -/
def Kept (s s' : Slot) : Prop := Contained s → Contained s' ∧ maxSize s' = maxSize s ∧ entryId s' = entryId s

section
variable {s s' : Slot} {ws : List (Nat × List Byte)} {full : Prop}

theorem kept_puts (hws : ∀ w ∈ ws, FieldWrite w ∧ Clear 3 4 (0 + w.1) w.2) : Kept s (s.puts 0 ws) := by
  intro hs
  refine ⟨hs.puts fun w hw => (hws w hw).1, ?_, ?_⟩
  · exact Marked.half_puts fun w hw => (hws w hw).1.clear.1
  · exact Marked.puts_byte fun w hw => (hws w hw).2

theorem CallWrite.keeps {w : Nat × List Byte} (h : CallWrite w) : FieldWrite w ∧ Clear 3 4 (0 + w.1) w.2 := by
  refine ⟨h.field, ?_⟩
  unfold Clear
  cases h with
  | low hlo hhi =>
    dsimp only
    omega
  | numCallouts _ => exact Or.inr (show 4 ≤ 0 + 11 by decide)
  | callouts hlo hhi =>
    dsimp only
    omega

theorem Change.kept (hc : Change full s s') : Kept s s' := by
  intro hs
  refine ⟨hc.contained hs, ?_⟩
  cases hc with
  | none => exact ⟨rfl, rfl⟩
  | fields _ hws => exact ((kept_puts fun w hw => (hws w hw).keeps) hs).2
  | @details ws n _ hin _ _ _ =>
    have hbase := hs.base
    have hentry : sizeofErrlEntry = 120 := rfl
    refine ⟨(maxSize_addSizes _ n).trans (Marked.half_puts fun w _ => Or.inr (by omega)), ?_⟩
    unfold entryId
    rw [mem_addSizes _ n (Or.inl (by decide))]
    exact Marked.puts_byte fun w _ => Or.inr (by omega)

theorem Change.committed (hc : Change full s s') (h : Contained s) : Slot.committed s' = Slot.committed s := by
  unfold Slot.committed
  cases hc with
  | none => rfl
  | fields _ hws =>
    rw [Marked.puts_byte fun w hw => ?_]
    unfold Clear
    cases hws w hw with
    | low _ hhi =>
      dsimp only
      omega
    | numCallouts _ => exact Or.inl (show 0 + 11 + 1 ≤ 103 by decide)
    | callouts _ hhi =>
      dsimp only
      omega
  | @details ws n _ hin _ _ _ =>
    have hbase := h.base
    have hentry : sizeofErrlEntry = 120 := rfl
    rw [mem_addSizes _ n (Or.inl (by decide)), Marked.puts_byte fun w _ => Or.inr (by omega)]

end

/-! ## Fresh bytes -/

/-- Every byte of the log has been written for it, or is a field that is still zero. -/
structure Fresh (s : Slot) : Prop where
  fields : ∀ x, x < sizeofErrlEntry → s.written x = false → s.mem x = 0
  details : ∀ x, sizeofErrlEntry ≤ x → x < (entrySize s).toNat → s.written x = true

section
variable {s s' : Slot} {ws : List (Nat × List Byte)} {a : Nat} {full : Prop}

theorem entrySize_puts (hws : ∀ w ∈ ws, FieldWrite w) : entrySize (s.puts 0 ws) = entrySize s :=
  Marked.half_puts fun w hw => Or.inl (hws w hw).clear.2

theorem entrySize_details (h : Contained s) (n : BitVec 16) :
    entrySize (Slot.addSizes (s.puts (entrySize s).toNat ws) n) = entrySize s + n := by
  have hbase := h.base
  have hentry : sizeofErrlEntry = 120 := rfl
  have hsize : entrySize (s.puts (entrySize s).toNat ws) = entrySize s :=
    Marked.half_puts fun w _ => Or.inr (by omega)
  rw [entrySize_addSizes, hsize]

theorem Fresh.puts (h : Fresh s) (hsize : entrySize (s.puts a ws) = entrySize s) : Fresh (s.puts a ws) := by
  constructor
  · intro x hx hwritten
    rw [Marked.puts_mem_of_not_written hwritten]
    refine h.fields x hx ?_
    by_contra hold
    rw [Marked.puts_written_of_written (Bool.eq_true_of_not_eq_false hold)] at hwritten
    cases hwritten
  · intro x hx hlt
    rw [hsize] at hlt
    exact Marked.puts_written_of_written (h.details x hx hlt)

theorem Fresh.fieldWrites (h : Fresh s) (hws : ∀ w ∈ ws, FieldWrite w) : Fresh (s.puts 0 ws) := h.puts (entrySize_puts hws)

/-- A call keeps the bytes fresh, when it writes the section that it adds. -/
theorem Change.fresh (hc : Change full s s') (hfull : full) (hcontained : Contained s) (h : Fresh s) : Fresh s' := by
  cases hc with
  | none => exact h
  | fields _ hws => exact h.fieldWrites fun w hw => (hws w hw).field
  | @details ws n _ hin hroom _ hfills =>
    have hbase := hcontained.base
    have hentry : sizeofErrlEntry = 120 := rfl
    have hmaxLt := (maxSize s).isLt
    have hkeep : entrySize (s.puts (entrySize s).toNat ws) = entrySize s :=
      Marked.half_puts fun w _ => Or.inr (by omega)
    have hputs := h.puts hkeep
    constructor
    · intro x hx hwritten
      have hold : (s.puts (entrySize s).toNat ws).written x = false := by
        by_contra hold
        have hstays : (addSizes (s.puts (entrySize s).toNat ws) n).written x = true :=
          Marked.puts_written_of_written (Bool.eq_true_of_not_eq_false hold)
        rw [hstays] at hwritten
        cases hwritten
      exact (Marked.puts_mem_of_not_written hwritten).trans (hputs.fields x hx hold)
    · intro x hx hlt
      rw [entrySize_details hcontained, BitVec.toNat_add, Nat.mod_eq_of_lt (by omega)] at hlt
      refine Marked.puts_written_of_written ?_
      by_cases hsection : x < (entrySize s).toNat
      · exact Marked.puts_written_of_written (h.details x hx hsection)
      · obtain ⟨w, hw, hlo, hhi⟩ := hfills hfull (x - (entrySize s).toNat) (by omega)
        exact Marked.puts_written_of_mem hw (by omega) (by omega)

end

/-! ## Commit -/

/-- Only fields but the id and the sizes are written. -/
def Patched (s s' : Slot) : Prop := ∃ ws, s' = s.puts 0 ws ∧ ∀ w ∈ ws, FieldWrite w ∧ Clear 3 4 (0 + w.1) w.2

namespace Patched

variable {s s' s'' : Slot}

theorem refl : Patched s s := ⟨[], rfl, nofun⟩

theorem trans (h : Patched s s') (h' : Patched s' s'') : Patched s s'' := by
  obtain ⟨ws, rfl, hws⟩ := h
  obtain ⟨vs, rfl, hvs⟩ := h'
  refine ⟨ws ++ vs, (Marked.puts_append vs).symm, fun w hw => ?_⟩
  obtain hw | hw := List.mem_append.1 hw
  · exact hws w hw
  · exact hvs w hw

theorem kept (h : Patched s s') : Kept s s' := by
  obtain ⟨ws, rfl, hws⟩ := h
  exact kept_puts hws

theorem fresh (h : Patched s s') (hs : Fresh s) : Fresh s' := by
  obtain ⟨ws, rfl, hws⟩ := h
  exact hs.fieldWrites fun w hw => (hws w hw).1

end Patched

section
variable (s : Slot)

theorem checkStopped_patched : Patched s (checkStopped s) := by
  refine ⟨_, rfl, ?_⟩
  simp only [List.forall_mem_cons, List.not_mem_nil, IsEmpty.forall_iff, implies_true, and_true]
  refine ⟨⟨.low (by simp), Or.inr (by decide)⟩, ⟨.low (by simp), Or.inr (by decide)⟩, .numCallouts (by decide), Or.inr (by decide)⟩

theorem resetRequired_patched : Patched s (resetRequired s) := by
  have hsev : Patched s (s.puts 0 [(5, [0x02])]) := by
    refine ⟨_, rfl, ?_⟩
    simp only [List.forall_mem_cons, List.not_mem_nil, IsEmpty.forall_iff, implies_true, and_true]
    exact ⟨.low (by simp), Or.inr (by decide)⟩
  unfold resetRequired
  dsimp only
  split
  · obtain ⟨ws, heq, hws⟩ := addCalloutToErrl_writes (s.puts 0 [(5, [0x02])]) 0x02 componentIdFirmware 0x03
    exact hsev.trans ⟨ws, heq, fun w hw => (hws w hw).keeps⟩
  · exact hsev

theorem close_patched : Patched s (close s) := by
  have hsix : maxCallouts = 6 := rfl
  have hclose : ∀ s : Slot, Patched s (s.puts 0 [(11, [BitVec.ofNat 8 maxCallouts]), (103, [s.mem 103 ||| 0x80])]) := by
    intro s
    refine ⟨_, rfl, ?_⟩
    simp only [List.forall_mem_cons, List.not_mem_nil, IsEmpty.forall_iff, implies_true, and_true]
    exact ⟨⟨.numCallouts (by decide), Or.inr (by decide)⟩, .high (by decide) (by simp), Or.inr (by decide)⟩
  unfold close
  dsimp only
  split
  · rename_i hlt
    refine Patched.trans ⟨_, rfl, ?_⟩ (hclose _)
    simp only [List.forall_mem_cons, List.not_mem_nil, IsEmpty.forall_iff, implies_true, and_true]
    refine ⟨.high (by omega) ?_, Or.inr (by omega)⟩
    rw [List.length_replicate]
    omega
  · exact hclose s

theorem commitErrl_patched (checkStop : Bool) : Patched s (Slot.commitErrl s checkStop) := by
  have hsum : ∀ s : Slot, Patched s (s.puts 0 [(0, Bytes.ofWord 2 ((sumBytes s).setWidth 16))]) := by
    intro s
    refine ⟨_, rfl, ?_⟩
    simp only [List.forall_mem_cons, List.not_mem_nil, IsEmpty.forall_iff, implies_true, and_true]
    exact ⟨.low (by simp), Or.inl (by simp)⟩
  have hstop : Patched s (if checkStop then checkStopped s else s) := by
    split
    · exact checkStopped_patched s
    · exact .refl
  have hreset : ∀ s : Slot, Patched s (if actions s &&& actionsResetRequired ≠ 0 then resetRequired s else s) := by
    intro s
    split
    · exact resetRequired_patched s
    · exact .refl
  exact ((hstop.trans (hreset _)).trans (close_patched _)).trans (hsum _)

end

/-! ## Creation -/

/-- The slot of no log: where a log has its fields it is zero. -/
def Cleared (s : Slot) : Prop := ∀ x, x < sizeofErrlEntry → s.mem x = 0

/-- A log that is being created, of at most `k` bytes so far; its bytes are fresh if `full`. -/
structure NewLog (full : Prop) (max : BitVec 16) (k : Nat) (s : Slot) : Prop where
  contained : Contained s
  fresh : full → Fresh s
  maxSize : maxSize s = max
  uncommitted : committed s = false
  size : (entrySize s).toNat ≤ k

section
variable {s s' : Slot} {max : BitVec 16} {k k' : Nat} {full : Prop}

namespace NewLog

theorem change (h : NewLog full max k s) (hc : Change full s s') (hsize : (entrySize s').toNat ≤ k') : NewLog full max k' s' := by
  obtain ⟨hcontained, hmax, -⟩ := hc.kept h.contained
  refine ⟨hcontained, fun hfull => ?_, hmax.trans h.maxSize, (hc.committed h.contained).trans h.uncommitted, hsize⟩
  exact hc.fresh hfull h.contained (h.fresh hfull)

theorem bound (h : NewLog full max k s) : (entrySize s).toNat ≤ max.toNat := by
  have hsize := h.contained.size
  rwa [h.maxSize] at hsize

theorem addErrHistory (h : NewLog full max k s) (history : ErrorHistory) :
    NewLog full max (k + 52) (addErrHistory s history) := by
  refine h.change (addErrHistory_change s history) ?_
  have hsize := h.size
  unfold Slot.addErrHistory
  split
  · rw [entrySize_details h.contained, BitVec.toNat_add]
    have hadd : (sizeofUsrDtlsEntry + 48).toNat = 52 := rfl
    omega
  · omega

theorem addUsrDtlsToErrl (h : NewLog full max k s) (data : Option Memory) (size : BitVec 16) (version type : Byte)
    (hroom : k + 4 ≤ max.toNat) : NewLog full max (k + 4 + size.toNat) (addUsrDtlsToErrl s data size version type) := by
  have hsize := h.size
  have hmax := h.maxSize
  have hfits : HeaderFits s := by
    intro
    rw [hmax]
    omega
  refine h.change (addUsrDtlsToErrl_change s version type fun _ _ _ => hfits) ?_
  unfold Slot.addUsrDtlsToErrl
  split
  · split
    · dsimp only
      rw [entrySize_details h.contained, BitVec.toNat_add, BitVec.toNat_add]
      have hmin := minSize_toNat size (availableSize s)
      have hfour : sizeofUsrDtlsEntry.toNat = 4 := rfl
      omega
    · omega
  · omega

theorem addPgpeDataToErrl (h : NewLog full max k s) (pgpe : PgpeData) (hroom : k + 4 ≤ max.toNat) :
    NewLog full max max.toNat (addPgpeDataToErrl s pgpe) := by
  unfold Slot.addPgpeDataToErrl
  split
  · have hadd := h.addUsrDtlsToErrl (some pgpe.trace) ((pgpeDataLength s pgpe).setWidth 16) 0x01 0x06 hroom
    have hactions := hadd.change (setErrlActions_change _ actionsForceSend) (Nat.le_refl _)
    exact ⟨hactions.contained, hactions.fresh, hactions.maxSize, hactions.uncommitted, hactions.bound⟩
  · exact ⟨h.contained, h.fresh, h.maxSize, h.uncommitted, h.bound⟩

theorem addTraceToErrl {trace : Option Trac.TraceComp} {traceSz : BitVec 16} {env : TraceEnv}
    (h : NewLog (env.Locks trace traceSz) max k s) :
    NewLog (env.Locks trace traceSz) max max.toNat (addTraceToErrl s trace traceSz env) := by
  have hlocks : env.Locks trace traceSz → TraceLocks s trace traceSz env := by
    intro hlocks hchecks
    have hmin := minSize_toNat traceSz (availableSize s)
    exact hlocks.mono (by omega)
  have hchange := h.change ((addTraceToErrl_change s trace env traceSz).imp hlocks) (Nat.le_refl _)
  exact ⟨hchange.contained, hchange.fresh, hchange.maxSize, hchange.uncommitted, hchange.bound⟩

end NewLog

section
variable (s) (max v : BitVec 16) {x : Nat}

theorem begun_written (h : (s.unmark.puts 0 [(7, Bytes.ofWord 2 max), (116, Bytes.ofWord 2 v)]).written x = true) :
    (7 ≤ x ∧ x < 9) ∨ (116 ≤ x ∧ x < 118) := by
  obtain hx | ⟨w, hw, hlo, hhi⟩ := Marked.puts_written h
  · cases hx
  · simp only [List.mem_cons, List.not_mem_nil, or_false] at hw
    obtain rfl | rfl := hw
    · rw [Bytes.length_ofWord] at hhi
      dsimp only at hlo hhi
      omega
    · rw [Bytes.length_ofWord] at hhi
      dsimp only at hlo hhi
      omega

theorem begun_zero (hclear : Cleared s) (hx : x < sizeofErrlEntry)
    (h : (s.unmark.puts 0 [(7, Bytes.ofWord 2 max), (116, Bytes.ofWord 2 v)]).written x = false) :
    (s.unmark.puts 0 [(7, Bytes.ofWord 2 max), (116, Bytes.ofWord 2 v)]).mem x = 0 :=
  (Marked.puts_mem_of_not_written h).trans (hclear x hx)

end

/-- A log is begun in a slot that is cleared. -/
theorem begin_newLog (hclear : Cleared s) (hmax : maxErrlEntrySz.toNat ≤ max.toNat) (history : ErrorHistory) :
    NewLog full max 172 (begin s max history) := by
  have hentry : sizeofErrlEntry = 120 := rfl
  have hmaxSz : maxErrlEntrySz.toNat = 2128 := rfl
  unfold begin
  refine NewLog.addErrHistory (k := 120) ?_ history
  have hwritten := @begun_written s max (BitVec.ofNat 16 sizeofErrlEntry)
  have hzero := fun x => @begun_zero s max (BitVec.ofNat 16 sizeofErrlEntry) x hclear
  have hmaxSize : maxSize (s.unmark.puts 0 [(7, Bytes.ofWord 2 max), (116, Bytes.ofWord 2 (BitVec.ofNat 16 sizeofErrlEntry))]) =
      max := (Marked.half_put (Or.inr (by decide))).trans (Marked.half_put_self max)
  have hsize : entrySize (s.unmark.puts 0 [(7, Bytes.ofWord 2 max), (116, Bytes.ofWord 2 (BitVec.ofNat 16 sizeofErrlEntry))]) =
      BitVec.ofNat 16 sizeofErrlEntry := Marked.half_put_self _
  set s₀ := s.unmark.puts 0 [(7, Bytes.ofWord 2 max), (116, Bytes.ofWord 2 (BitVec.ofNat 16 sizeofErrlEntry))]
  have hsizeNat : (entrySize s₀).toNat = 120 := by
    rw [hsize]
    rfl
  have hother : ∀ x, x < 120 → (x < 7 ∨ 9 ≤ x) → (x < 116 ∨ 118 ≤ x) → s₀.mem x = 0 := by
    intro x hx hseven hsixteen
    refine hzero x hx (Bool.eq_false_of_not_eq_true fun hw => ?_)
    have hfields := hwritten hw
    omega
  refine ⟨⟨?_, ?_, ?_, ?_, ?_, fun x hx => ?_⟩, fun _ => ⟨hzero, fun x hx hlt => ?_⟩, hmaxSize, ?_, by omega⟩
  · omega
  · rw [hsizeNat, hmaxSize]
    omega
  · have hdetails : userDetailEntrySize s₀ = 0 := by
      unfold userDetailEntrySize half
      rw [hother 118 (by decide) (by decide) (by decide), hother 119 (by decide) (by decide) (by decide)]
      rfl
    rw [hdetails, hsizeNat]
    rfl
  · unfold numCallouts
    rw [hother 11 (by decide) (by decide) (by decide)]
    exact Nat.zero_le _
  · rw [hsizeNat]
    exact .nil _
  · rw [hmaxSize]
    have hfields := hwritten hx
    omega
  · omega
  · unfold committed
    rw [hother 103 (by decide) (by decide) (by decide)]
    rfl

theorem newFields_field (id severity : Byte) (args : ErrlArgs) (occ : OccFields) :
    ∀ w ∈ newFields id severity args occ, FieldWrite w := by
  unfold newFields
  simp only [List.forall_mem_cons, List.not_mem_nil, IsEmpty.forall_iff, implies_true, and_true]
  refine ⟨.low (by simp), .low (by simp), .high (by decide) (by simp), .low (by simp), .extendedRc (by decide) (by simp),
    .high (by decide) (by simp), .high (by decide) (by simp), .low (by simp), .high (by decide) (by simp),
    .high (by decide) (by simp), .numCallouts (by decide), .high (by decide) (by simp), .high (by decide) (by simp),
    .high (by decide) (by simp), .high (by decide) (by simp)⟩

theorem newFields_uncommitted (id severity : Byte) (args : ErrlArgs) (occ : OccFields) :
    ∀ w ∈ newFields id severity args occ, Clear 103 104 (0 + w.1) w.2 := by
  unfold newFields
  simp [Clear]

theorem NewLog.puts (h : NewLog full max k s) (id severity : Byte) (args : ErrlArgs) (occ : OccFields) :
    NewLog full max k (s.puts 0 (newFields id severity args occ)) ∧
      entryId (s.puts 0 (newFields id severity args occ)) = id := by
  have hfields := newFields_field id severity args occ
  refine ⟨⟨h.contained.puts hfields, fun hfull => (h.fresh hfull).fieldWrites hfields, ?_, ?_, ?_⟩, ?_⟩
  · exact (Marked.half_puts fun w hw => (hfields w hw).clear.1).trans h.maxSize
  · unfold Slot.committed
    rw [Marked.puts_byte (newFields_uncommitted id severity args occ)]
    exact h.uncommitted
  · rw [entrySize_puts hfields]
    exact h.size
  · unfold entryId newFields
    rw [Marked.puts_cons]
    refine (Marked.puts_byte ?_).trans (Marked.put_mem_get (i := 0) rfl)
    simp [Clear]

theorem createErrl_newLog (hclear : Cleared s) (hmax : maxErrlEntrySz.toNat ≤ max.toNat) (id : Byte) (args : ErrlArgs)
    (trace : Option Trac.TraceComp) (traceSz : BitVec 16) (history : ErrorHistory) (env : TraceEnv) (occ : OccFields) :
    NewLog (env.Locks trace traceSz) max max.toNat (Slot.createErrl s max id args trace traceSz history env occ) ∧
      entryId (Slot.createErrl s max id args trace traceSz history env occ) = id :=
  (begin_newLog hclear hmax history).addTraceToErrl.puts id _ args occ

theorem createPgpeErrl_newLog (hclear : Cleared s) (hmax : maxErrlEntrySz.toNat ≤ max.toNat) (id : Byte) (args : ErrlArgs)
    (pgpe : PgpeData) (history : ErrorHistory) (env : TraceEnv) (occ : OccFields) :
    NewLog (env.Locks none defaultTraceSize) max max.toNat (Slot.createPgpeErrl s max id args pgpe history env occ) ∧
      entryId (Slot.createPgpeErrl s max id args pgpe history env occ) = id := by
  have hmaxSz : maxErrlEntrySz.toNat = 2128 := rfl
  have hwofSz : sizeofAmecWof.toNat = 676 := rfl
  have hbegin : NewLog (env.Locks none defaultTraceSize) max 172 (begin s max history) := begin_newLog hclear hmax history
  -- the WOF data leave room for the data of the PGPE
  have hwof : NewLog (env.Locks none defaultTraceSize) max 852 (if args.src.reasonCode = wofDisabledRc ∧ pgpe.fspSupported then
      Slot.addUsrDtlsToErrl (begin s max history) (some pgpe.wof) sizeofAmecWof 0x01 0x05 else begin s max history) := by
    split
    · exact hbegin.addUsrDtlsToErrl _ sizeofAmecWof _ _ (by omega)
    · exact ⟨hbegin.contained, hbegin.fresh, hbegin.maxSize, hbegin.uncommitted, Nat.le_trans hbegin.size (by decide)⟩
  exact ((hwof.addPgpeDataToErrl pgpe (by omega)).addTraceToErrl).puts id _ args occ

theorem deleteErrl_cleared (h : Contained s) : Cleared (Slot.deleteErrl s) := by
  intro x hx
  have hbase := h.base
  have hget : (List.replicate (entrySize s).toNat (0 : Byte))[x]? = some 0 := by
    rw [List.getElem?_replicate, if_pos (by omega)]
  have hmem := Marked.put_mem_get (s := s) (a := 0) hget
  rw [Nat.zero_add] at hmem
  exact hmem

end

end Occ.Errl
