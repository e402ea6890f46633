/-
The ring of snapshots over whole runs: its places hold the last snapshots of the history, so that the commands report the oldest
and the newest of them and find each by its id, and an interval of a snapshot is the one recorded so many snapshots before.
-/
import Occ.Cmdh.Snapshot
import Occ.Lib.Ring
import Mathlib.Data.List.GetD

namespace Occ.Cmdh

open Occ.Ring Transition
open Function (update)

/-! ## The snapshots of a history -/

/-- Snapshot number `n` of a history: its intervals, the last one first, and nothing before the first one. -/
def snapshotAt (h : List CimpEntry) (n : Nat) : SnapshotBuffer where
  currentId := BitVec.ofNat 8 n
  cim j := if j.val ≤ n then h.getD (n - j.val) .zero else .zero

def snapshotsOf (h : List CimpEntry) : List SnapshotBuffer := (List.range h.length).map (snapshotAt h)

/-- The number of the oldest snapshot that is kept. -/
def oldestNumber (h : List CimpEntry) : Nat := h.length - cmdhSnapshotMax

section
variable {h : List CimpEntry} {e : CimpEntry} {n m : Nat}

@[simp] theorem length_snapshotsOf : (snapshotsOf h).length = h.length := by
  rw [snapshotsOf, List.length_map, List.length_range]

theorem getElem?_snapshotsOf (hn : n < h.length) : (snapshotsOf h)[n]? = some (snapshotAt h n) := by
  rw [snapshotsOf, List.getElem?_map, List.getElem?_range hn]
  rfl

theorem snapshotAt_append (hn : n < h.length) : snapshotAt (h ++ [e]) n = snapshotAt h n := by
  unfold snapshotAt
  congr 1
  funext j
  by_cases hj : j.val ≤ n
  · rw [if_pos hj, if_pos hj, List.getD_append _ _ _ _ (by omega)]
  · rw [if_neg hj, if_neg hj]

theorem snapshotsOf_append : snapshotsOf (h ++ [e]) = snapshotsOf h ++ [snapshotAt (h ++ [e]) h.length] := by
  unfold snapshotsOf
  rw [List.length_append, List.length_singleton, List.range_succ, List.map_append, List.map_singleton]
  congr 1
  refine List.map_congr_left ?_
  rintro n hn
  exact snapshotAt_append (List.mem_range.1 hn)

theorem currentId_inj (hn : oldestNumber h ≤ n) (hnlt : n < h.length) (hm : oldestNumber h ≤ m) (hmlt : m < h.length)
    (heq : (snapshotAt h n).currentId = (snapshotAt h m).currentId) : n = m := by
  have hmod : n % 256 = m % 256 := by
    simpa only [snapshotAt, BitVec.toNat_ofNat] using congrArg BitVec.toNat heq
  unfold oldestNumber cmdhSnapshotMax at hn hm
  omega

end

/-! ## The state of the ring -/

/-- How the globals keep a history. -/
structure Keeps (s : Snapshots) (h : List CimpEntry) : Prop where
  pending : s.reset = true → h = [] ∧ s.curIndex = cmdhSnapshotDefaultCurIndex
  curId : s.reset = false → s.curId = BitVec.ofNat 8 h.length
  seqNumber : s.reset = false → s.cimSeqNumber = BitVec.ofNat 8 h.length
  index : s.reset = false → s.curIndex =
    if h = [] then cmdhSnapshotDefaultCurIndex else BitVec.ofNat 8 ((h.length - 1) % cmdhSnapshotMax)
  entries : s.reset = false → ∀ j < cmdhCimpMax, s.cimBuf j = if j < h.length then h.getD (h.length - 1 - j) .zero else .zero
  window : s.reset = false → Window cmdhSnapshotMax 0 s.array (snapshotsOf h) (oldestNumber h)
  unused : s.reset = false → ∀ i < cmdhSnapshotMax, h.length ≤ i → s.array i = .zero
  numbered : ∀ k (hk : k < h.length), h[k].seqNumber = BitVec.ofNat 8 k

section
variable {s : Snapshots} {h : List CimpEntry}

theorem keeps_boot {array : Nat → SnapshotBuffer} {cimBuf : Nat → CimpEntry} {gsid : BitVec 16} {mini : Option (BitVec 16)} :
    Keeps (.boot array cimBuf gsid mini) [] :=
  ⟨fun _ => ⟨rfl, rfl⟩, nofun, nofun, nofun, nofun, nofun, nofun, nofun⟩

theorem keeps_pending : Keeps { s with reset := true, curIndex := cmdhSnapshotDefaultCurIndex } [] :=
  ⟨fun _ => ⟨rfl, rfl⟩, nofun, nofun, nofun, nofun, nofun, nofun, nofun⟩

theorem keeps_clear : Keeps s.clear [] where
  pending := nofun
  curId _ := rfl
  seqNumber _ := rfl
  index _ := rfl
  entries _ j hj := (if_pos hj).trans (if_neg (Nat.not_lt_zero j)).symm
  window _ := Window.empty
  unused _ _ hi _ := if_pos hi
  numbered := nofun

/-- The place that the next snapshot goes to. -/
theorem index_record (hk : Keeps s h) (hreset : s.reset = false) :
    s.record.curIndex = BitVec.ofNat 8 (h.length % cmdhSnapshotMax) := by
  have hmax : cmdhSnapshotMax = 6 := rfl
  have hindex := hk.index hreset
  unfold Snapshots.record
  dsimp only
  by_cases hnil : h = []
  · rw [if_pos hnil] at hindex
    rw [hindex, hnil]
    rfl
  rw [if_neg hnil] at hindex
  have hpos : 0 < h.length := List.length_pos_iff.2 hnil
  have hstep : (s.curIndex + 1).toNat = (h.length - 1) % 6 + 1 := by
    rw [hindex, BitVec.toNat_add, BitVec.toNat_ofNat, hmax]
    show ((h.length - 1) % 6 % 256 + 1) % 256 = _
    omega
  by_cases hwrap : cmdhSnapshotMaxIndex < (s.curIndex + 1).toNat
  · rw [if_pos hwrap]
    rw [hstep] at hwrap
    have hzero : h.length % cmdhSnapshotMax = 0 := by
      rw [hmax]
      unfold cmdhSnapshotMaxIndex at hwrap
      omega
    rw [hzero]
    rfl
  · rw [if_neg hwrap]
    rw [hstep] at hwrap
    refine BitVec.eq_of_toNat_eq ?_
    rw [hstep, BitVec.toNat_ofNat, hmax]
    unfold cmdhSnapshotMaxIndex at hwrap
    omega

theorem toNat_index_record (hk : Keeps s h) (hreset : s.reset = false) :
    s.record.curIndex.toNat = h.length % cmdhSnapshotMax := by
  rw [index_record hk hreset, BitVec.toNat_ofNat]
  unfold cmdhSnapshotMax
  omega

theorem entries_record (hk : Keeps s h) (hreset : s.reset = false) (j : Nat) (hj : j < cmdhCimpMax) :
    s.record.cimBuf j =
      if j < (h ++ [s.newEntry]).length then (h ++ [s.newEntry]).getD ((h ++ [s.newEntry]).length - 1 - j) .zero
      else .zero := by
  have hlength : (h ++ [s.newEntry]).length = h.length + 1 := by rw [List.length_append, List.length_singleton]
  rw [hlength]
  show (if j = 0 then s.newEntry else if j < cmdhCimpMax then s.cimBuf (j - 1) else s.cimBuf j) = _
  by_cases hzero : j = 0
  · rw [if_pos hzero, if_pos (by omega), hzero, List.getD_append_right _ _ _ _ (by omega)]
    simp
  · rw [if_neg hzero, if_pos hj, hk.entries hreset (j - 1) (by omega)]
    by_cases hlt : j < h.length + 1
    · rw [if_pos hlt, if_pos (by omega), List.getD_append _ _ _ _ (by omega)]
      congr 1
      omega
    · rw [if_neg hlt, if_neg (by omega)]

theorem snapshot_record (hk : Keeps s h) (hreset : s.reset = false) :
    (⟨s.curId, fun j => s.record.cimBuf j⟩ : SnapshotBuffer) = snapshotAt (h ++ [s.newEntry]) h.length := by
  unfold snapshotAt
  rw [hk.curId hreset]
  congr 1
  funext j
  have hlength : (h ++ [s.newEntry]).length = h.length + 1 := by rw [List.length_append, List.length_singleton]
  rw [entries_record hk hreset j j.isLt, hlength, Nat.add_sub_cancel]
  by_cases hj : j.val ≤ h.length
  · rw [if_pos hj, if_pos (by omega)]
  · rw [if_neg hj, if_neg (by omega)]

theorem window_record (hk : Keeps s h) (hreset : s.reset = false) :
    Window cmdhSnapshotMax 0 s.record.array (snapshotsOf (h ++ [s.newEntry])) (oldestNumber (h ++ [s.newEntry])) := by
  have hlength : (h ++ [s.newEntry]).length = h.length + 1 := by rw [List.length_append, List.length_singleton]
  have holdest : oldestNumber (h ++ [s.newEntry]) = h.length + 1 - cmdhSnapshotMax := by rw [oldestNumber, hlength]
  have hmax : cmdhSnapshotMax = 6 := rfl
  have harray : s.record.array =
      update s.array (h.length % cmdhSnapshotMax) ⟨s.curId, fun j => s.record.cimBuf j⟩ := by
    rw [← toNat_index_record hk hreset]
    rfl
  rw [snapshotsOf_append, harray, snapshot_record hk hreset]
  -- the oldest snapshot is given up where the ring is full, which frees the place
  have hskip : Window cmdhSnapshotMax 0 s.array (snapshotsOf h) (oldestNumber (h ++ [s.newEntry])) :=
    (hk.window hreset).skip (by unfold oldestNumber; omega) (by rw [length_snapshotsOf, holdest]; omega)
  have hroom : (snapshotsOf h).length < oldestNumber (h ++ [s.newEntry]) + cmdhSnapshotMax := by
    rw [length_snapshotsOf, holdest]
    omega
  have hplace : (0 + (snapshotsOf h).length) % cmdhSnapshotMax = h.length % cmdhSnapshotMax := by
    rw [length_snapshotsOf, Nat.zero_add]
  rw [← hplace]
  exact (hskip.store hroom).publish hroom (Function.update_self ..)

theorem keeps_record (hk : Keeps s h) (hreset : s.reset = false) : Keeps s.record (h ++ [s.newEntry]) where
  pending hr := absurd (hreset.symm.trans hr) Bool.false_ne_true
  curId _ := by
    show s.curId + 1 = _
    rw [hk.curId hreset, List.length_append, List.length_singleton, BitVec.ofNat_add]
    rfl
  seqNumber _ := by
    show s.cimSeqNumber + 1 = _
    rw [hk.seqNumber hreset, List.length_append, List.length_singleton, BitVec.ofNat_add]
    rfl
  index _ := by
    rw [if_neg (List.append_ne_nil_of_right_ne_nil _ (List.cons_ne_nil _ _)), index_record hk hreset, List.length_append,
      List.length_singleton, Nat.add_sub_cancel]
  entries _ j hj := entries_record hk hreset j hj
  window _ := window_record hk hreset
  unused _ i hi hlen := by
    rw [List.length_append, List.length_singleton] at hlen
    show update s.array s.record.curIndex.toNat _ i = _
    rw [toNat_index_record hk hreset, Function.update_of_ne]
    · exact hk.unused hreset i hi (by omega)
    · rw [Nat.mod_eq_of_lt (by omega)]
      omega
  numbered k hlt := by
    by_cases hold : k < h.length
    · rw [List.getElem_append_left hold]
      exact hk.numbered k hold
    · rw [List.length_append, List.length_singleton] at hlt
      obtain rfl : k = h.length := by omega
      rw [List.getElem_concat_length rfl]
      exact hk.seqNumber hreset

theorem Keeps.congr {t : Snapshots} (hk : Keeps s h) (harray : t.array = s.array) (hid : t.curId = s.curId)
    (hindex : t.curIndex = s.curIndex) (hreset : t.reset = s.reset) (hcim : t.cimBuf = s.cimBuf)
    (hseq : t.cimSeqNumber = s.cimSeqNumber) : Keeps t h := by
  obtain ⟨hp, hi, hs, hx, he, hw, hu, hn⟩ := hk
  rw [← hreset] at hp hi hs hx he hw hu
  rw [← hindex] at hp hx
  rw [← hid] at hi
  rw [← hseq] at hs
  rw [← hcim] at he
  rw [← harray] at hw hu
  exact ⟨hp, hi, hs, hx, he, hw, hu, hn⟩

theorem keeps_callback (hk : Keeps s h) (state : Smgr.OccState) :
    Keeps (s.step (.callback state)) (s.historyStep h (.callback state)) := by
  unfold Snapshots.step Snapshots.cmdhSnapshotCallback Snapshots.historyStep
  dsimp only
  by_cases hreset : s.reset = true
  · rw [if_pos hreset, if_pos hreset]
    exact (keeps_clear (s := s)).congr rfl rfl rfl rfl rfl rfl
  rw [if_neg hreset, if_neg hreset]
  by_cases hop : Snapshots.operating state = true
  · rw [if_pos hop, if_pos hop]
    exact (keeps_record hk (Bool.eq_false_of_not_eq_true hreset)).congr rfl rfl rfl rfl rfl rfl
  · rw [if_neg hop, if_neg hop]
    exact hk.congr rfl rfl rfl rfl rfl rfl

theorem keeps_sync (hk : Keeps s h) (dataLength : BitVec 16) (version : BitVec 8) (scheduleRc : Int) :
    Keeps (s.step (.sync dataLength version scheduleRc)) (s.historyStep h (.sync dataLength version scheduleRc)) := by
  unfold Snapshots.step Snapshots.cmdhSnapshotSync Snapshots.historyStep
  dsimp only
  by_cases hlen : dataLength.setWidth 8 = cmdhSnapshotSyncDataSize
  · rw [if_neg (not_not.2 hlen)]
    by_cases hversion : version = cmdhSnapshotSyncVersion
    · rw [if_neg (not_not.2 hversion), if_pos (show Snapshots.Syncs dataLength version from ⟨hlen, hversion⟩)]
      by_cases hrc : scheduleRc ≠ 0
      · rw [if_pos hrc]
        exact keeps_pending
      · rw [if_neg hrc]
        exact keeps_pending
    · rw [if_pos hversion, if_neg fun h => hversion h.2]
      exact hk
  · rw [if_pos hlen, if_neg fun h => hlen h.1]
    exact hk

theorem keeps_step (hk : Keeps s h) (e : SnapshotEvent) : Keeps (s.step e) (s.historyStep h e) := by
  cases e with
  | sample tod power freq => exact hk.congr rfl rfl rfl rfl rfl rfl
  | sensor op => exact hk.congr rfl rfl rfl rfl rfl rfl
  | callback state => exact keeps_callback hk state
  | sync dataLength version scheduleRc => exact keeps_sync hk dataLength version scheduleRc

theorem keeps_run {s t : Snapshots × List CimpEntry} {es : List SnapshotEvent} (h : Run (StepOf snapshotStep) s es t)
    (hk : Keeps s.1 s.2) : Keeps t.1 t.2 := by
  refine h.invariant (P := fun t => Keeps t.1 t.2) ?_ hk
  rintro s e t hs hstep
  cases hstep
  exact keeps_step hs e

/-! ## The answers -/

theorem place_cases (hk : Keeps s h) (hreset : s.reset = false) {i : Nat} (hi : i < cmdhSnapshotMax) :
    (∃ n, oldestNumber h ≤ n ∧ n < h.length ∧ n % cmdhSnapshotMax = i ∧ s.array i = snapshotAt h n) ∨
      h.length ≤ i ∧ s.array i = .zero := by
  have hmax : cmdhSnapshotMax = 6 := rfl
  by_cases hlen : h.length ≤ i
  · exact .inr ⟨hlen, hk.unused hreset i hi hlen⟩
  · refine .inl ⟨h.length - 1 - (h.length - 1 - i) % 6, ?_, ?_, ?_, ?_⟩
    · unfold oldestNumber
      omega
    · omega
    · show _ % 6 = i
      omega
    · have hslot := (hk.window hreset).slots (h.length - 1 - (h.length - 1 - i) % 6)
        (by unfold oldestNumber; omega) (by rw [length_snapshotsOf]; omega)
      rw [getElem?_snapshotsOf (by omega)] at hslot
      rw [Option.some.inj hslot]
      congr 1
      show i = _ % 6
      omega

theorem place_eq (hk : Keeps s h) (hreset : s.reset = false) {n : Nat} (hn : oldestNumber h ≤ n) (hlt : n < h.length) :
    s.array (n % cmdhSnapshotMax) = snapshotAt h n := by
  have hslot := (hk.window hreset).slots n hn (by rw [length_snapshotsOf]; exact hlt)
  rw [getElem?_snapshotsOf hlt, Nat.zero_add] at hslot
  exact (Option.some.inj hslot).symm

theorem lastPlace_eq_zero_iff (hk : Keeps s h) (hreset : s.reset = false) :
    (s.array cmdhSnapshotMaxIndex).currentId = 0 ↔ h.length < cmdhSnapshotMax := by
  have hmax : cmdhSnapshotMax = 6 := rfl
  obtain ⟨n, hn, hlt, hmod, heq⟩ | ⟨hlen, heq⟩ := place_cases hk hreset (i := cmdhSnapshotMaxIndex) (by decide)
  · rw [heq]
    have hodd : n % 6 = 5 := hmod
    unfold oldestNumber at hn
    constructor
    · intro hzero
      have hid : n % 256 = 0 := (BitVec.toNat_ofNat n 8).symm.trans (congrArg BitVec.toNat hzero)
      omega
    · omega
  · rw [heq]
    unfold cmdhSnapshotMaxIndex at hlen
    exact iff_of_true rfl (by omega)

/-- The indices are those of the oldest and of the newest snapshot. -/
theorem findOldestNewest_eq (hk : Keeps s h) (hreset : s.reset = false) (hne : h ≠ []) :
    s.cmdhSnapshotFindOldestNewest = (oldestNumber h % cmdhSnapshotMax, (h.length - 1) % cmdhSnapshotMax) := by
  have hpos : 0 < h.length := List.length_pos_iff.2 hne
  have holdest : oldestNumber h % cmdhSnapshotMax = (h.length - 6) % 6 := rfl
  have hnewest : (h.length - 1) % cmdhSnapshotMax = (h.length - 1) % 6 := rfl
  have hindex := hk.index hreset
  rw [if_neg hne, hnewest] at hindex
  have hnat : s.curIndex.toNat = (h.length - 1) % 6 := by
    rw [hindex, BitVec.toNat_ofNat]
    exact Nat.mod_eq_of_lt ((Nat.mod_lt _ (by decide)).trans (by decide))
  have hlast : (s.array cmdhSnapshotMaxIndex).currentId = 0 ↔ h.length < 6 := lastPlace_eq_zero_iff hk hreset
  rw [holdest, hnewest]
  unfold Snapshots.cmdhSnapshotFindOldestNewest
  dsimp only
  by_cases hfirst : s.curIndex = 0 ∧ (s.array 0).currentId = 0 ∧ (s.array cmdhSnapshotMaxIndex).currentId = 0
  · rw [if_pos hfirst]
    obtain ⟨hzero, -, hempty⟩ := hfirst
    have hlt := hlast.1 hempty
    have hmod : (h.length - 1) % 6 = 0 := by rw [← hnat, hzero]; rfl
    refine Prod.ext ?_ hmod.symm
    show 0 = _
    omega
  rw [if_neg hfirst, hnat]
  refine Prod.ext ?_ rfl
  dsimp only
  by_cases hend : cmdhSnapshotMaxIndex < (h.length - 1) % 6 + 1
  · rw [if_pos hend]
    unfold cmdhSnapshotMaxIndex cmdhSnapshotMax at hend
    omega
  rw [if_neg hend]
  unfold cmdhSnapshotMaxIndex cmdhSnapshotMax at hend
  by_cases hfull : h.length < 6
  · -- the place after the newest snapshot is still empty
    have hnext : s.array ((h.length - 1) % 6 + 1) = .zero :=
      hk.unused hreset _ (show _ < 6 by omega) (by omega)
    rw [if_pos ⟨by rw [hnext]; rfl, hlast.2 hfull⟩]
    omega
  · rw [if_neg fun h => hfull (hlast.1 h.2)]
    omega

theorem find_eq (hk : Keeps s h) (hreset : s.reset = false) {n : Nat} (hn : oldestNumber h ≤ n) (hlt : n < h.length) :
    ((List.range cmdhSnapshotMax).find? fun i => (s.array i).currentId == BitVec.ofNat 8 n) =
      some (n % cmdhSnapshotMax) := by
  have hmod : n % cmdhSnapshotMax < cmdhSnapshotMax := Nat.mod_lt _ (by decide)
  rw [List.find?_range_eq_some]
  refine ⟨?_, List.mem_range.2 hmod, ?_⟩
  · rw [place_eq hk hreset hn hlt]
    exact beq_self_eq_true _
  · rintro i hi
    rw [Bool.not_eq_true', beq_eq_false_iff_ne]
    intro hid
    obtain ⟨m, hm, hmlt, hmmod, heq⟩ | ⟨hlen, -⟩ := place_cases hk hreset (hi.trans hmod)
    · rw [heq] at hid
      have hnm : m = n := currentId_inj hm hmlt hn hlt hid
      rw [hnm] at hmmod
      exact absurd hmmod hi.ne'
    · -- an empty place lies after all snapshots
      have hle : n % cmdhSnapshotMax ≤ n := Nat.mod_le _ _
      omega

theorem find_eq_none (hk : Keeps s h) (hreset : s.reset = false) (hne : h ≠ []) {id : BitVec 8}
    (hid : ∀ n, oldestNumber h ≤ n → n < h.length → BitVec.ofNat 8 n ≠ id) :
    ((List.range cmdhSnapshotMax).find? fun i => (s.array i).currentId == id) = none := by
  have hpos : 0 < h.length := List.length_pos_iff.2 hne
  rw [List.find?_eq_none]
  rintro i hi hfound
  have hfound := beq_iff_eq.1 hfound
  obtain ⟨m, hm, hmlt, -, heq⟩ | ⟨hlen, heq⟩ := place_cases hk hreset (List.mem_range.1 hi)
  · rw [heq] at hfound
    exact hid m hm hmlt hfound
  · -- an empty place has id 0, and so has the first snapshot, which is still there
    rw [heq] at hfound
    have hmem : i < 6 := List.mem_range.1 hi
    exact hid 0 (show h.length - 6 ≤ 0 by omega) hpos hfound

theorem bufferNonite_nil (hk : Keeps s []) (requestedId getnewest : BitVec 8) :
    s.cmdhSnapshotBufferNonite requestedId getnewest = .empty := by
  have hindex : s.curIndex = cmdhSnapshotDefaultCurIndex := by
    cases hreset : s.reset with
    | true => exact (hk.pending hreset).2
    | false => exact (hk.index hreset).trans (if_pos rfl)
  unfold Snapshots.cmdhSnapshotBufferNonite
  rw [if_pos hindex]

/-- The answer with the ids of the oldest and of the newest snapshot. -/
def answer (h : List CimpEntry) (n : Nat) : SnapshotRsp :=
  .snapshot (snapshotAt h (oldestNumber h)).currentId (snapshotAt h (h.length - 1)).currentId (snapshotAt h n)

theorem reset_eq_false (hk : Keeps s h) (hne : h ≠ []) : s.reset = false := by
  by_contra hreset
  exact hne (hk.pending (Bool.eq_true_of_not_eq_false hreset)).1

theorem bufferNonite_eq (hk : Keeps s h) (hne : h ≠ []) (requestedId getnewest : BitVec 8) {n : Nat}
    (hn : oldestNumber h ≤ n) (hlt : n < h.length)
    (hreq : (if getnewest ≠ 0 then (h.length - 1) % cmdhSnapshotMax
      else ((List.range cmdhSnapshotMax).find? fun i => (s.array i).currentId == requestedId).getD
        ((h.length - 1) % cmdhSnapshotMax)) = n % cmdhSnapshotMax) :
    s.cmdhSnapshotBufferNonite requestedId getnewest = answer h n := by
  have hpos : 0 < h.length := List.length_pos_iff.2 hne
  have hreset := reset_eq_false hk hne
  have hindex : s.curIndex ≠ cmdhSnapshotDefaultCurIndex := by
    rw [hk.index hreset, if_neg hne]
    intro heq
    have hnat := congrArg BitVec.toNat heq
    rw [BitVec.toNat_ofNat, Nat.mod_eq_of_lt ((Nat.mod_lt _ (by decide)).trans (by decide))] at hnat
    exact absurd hnat ((Nat.mod_lt _ (by decide : 0 < cmdhSnapshotMax)).trans (by decide)).ne
  unfold Snapshots.cmdhSnapshotBufferNonite answer
  rw [if_neg hindex, findOldestNewest_eq hk hreset hne]
  dsimp only
  rw [hreq, place_eq hk hreset le_rfl (by unfold oldestNumber cmdhSnapshotMax; omega),
    place_eq hk hreset (by unfold oldestNumber cmdhSnapshotMax; omega) (Nat.sub_lt hpos Nat.one_pos),
    place_eq hk hreset hn hlt]

end

/-! ## The law -/

/-- What the commands and the next callback do in a state with a history. -/
structure SnapshotLaw (s : Snapshots) (h : List CimpEntry) : Prop where
  numbered : ∀ k (hk : k < h.length), h[k].seqNumber = BitVec.ofNat 8 k
  none : h = [] → ∀ requestedId getnewest, s.cmdhSnapshotBufferNonite requestedId getnewest = .empty
  oldestNewest : h ≠ [] →
    s.array s.cmdhSnapshotFindOldestNewest.1 = snapshotAt h (oldestNumber h) ∧
      s.array s.cmdhSnapshotFindOldestNewest.2 = snapshotAt h (h.length - 1)
  newest : h ≠ [] → ∀ requestedId getnewest, getnewest ≠ 0 →
    s.cmdhSnapshotBufferNonite requestedId getnewest = answer h (h.length - 1)
  stored : ∀ n, oldestNumber h ≤ n → n < h.length →
    s.cmdhSnapshotBufferNonite (BitVec.ofNat 8 n) 0 = answer h n
  missing : h ≠ [] → ∀ requestedId, (∀ n, oldestNumber h ≤ n → n < h.length → BitVec.ofNat 8 n ≠ requestedId) →
    s.cmdhSnapshotBufferNonite requestedId 0 = answer h (h.length - 1)

/-- What a sync command that is accepted does at once, and what the callback after it does. -/
structure SyncLaw (s : Snapshots) : Prop where
  pending : ∀ dataLength version scheduleRc, Snapshots.Syncs dataLength version →
    (s.cmdhSnapshotSync dataLength version scheduleRc).1 =
      { s with reset := true, curIndex := cmdhSnapshotDefaultCurIndex }
  refused : ∀ dataLength version scheduleRc, ¬ Snapshots.Syncs dataLength version →
    (s.cmdhSnapshotSync dataLength version scheduleRc).1 = s
  history : s.reset = true → ∀ state,
    (∀ i < cmdhSnapshotMax, (s.cmdhSnapshotCallback state).array i = .zero) ∧
      (∀ j < cmdhCimpMax, (s.cmdhSnapshotCallback state).cimBuf j = .zero) ∧
      (s.cmdhSnapshotCallback state).curId = 0 ∧ (s.cmdhSnapshotCallback state).cimSeqNumber = 0 ∧
      (s.cmdhSnapshotCallback state).curIndex = cmdhSnapshotDefaultCurIndex ∧ (s.cmdhSnapshotCallback state).reset = false
  outside : s.reset = true → ∀ state,
    (∀ i, cmdhSnapshotMax ≤ i → (s.cmdhSnapshotCallback state).array i = s.array i) ∧
      (∀ j, cmdhCimpMax < j → (s.cmdhSnapshotCallback state).cimBuf j = s.cimBuf j) ∧
      (s.cmdhSnapshotCallback state).pwrsys = s.pwrsys

section
variable {s : Snapshots} {h : List CimpEntry}

theorem SnapshotLaw.of_keeps (hk : Keeps s h) : SnapshotLaw s h := by
  have hnewestPos : h ≠ [] → oldestNumber h ≤ h.length - 1 ∧ h.length - 1 < h.length := by
    intro hne
    have hpos : 0 < h.length := List.length_pos_iff.2 hne
    unfold oldestNumber cmdhSnapshotMax
    omega
  refine ⟨hk.numbered, ?_, ?_, ?_, ?_, ?_⟩
  · rintro rfl requestedId getnewest
    exact bufferNonite_nil hk requestedId getnewest
  · rintro hne
    have hreset := reset_eq_false hk hne
    obtain ⟨hlow, hhigh⟩ := hnewestPos hne
    rw [findOldestNewest_eq hk hreset hne]
    exact ⟨place_eq hk hreset le_rfl (hlow.trans_lt hhigh), place_eq hk hreset hlow hhigh⟩
  · rintro hne requestedId getnewest hget
    obtain ⟨hlow, hhigh⟩ := hnewestPos hne
    exact bufferNonite_eq hk hne requestedId getnewest hlow hhigh (if_pos hget)
  · rintro n hn hlt
    have hne : h ≠ [] := List.length_pos_iff.1 (Nat.zero_lt_of_lt hlt)
    refine bufferNonite_eq hk hne _ 0 hn hlt ?_
    rw [if_neg (not_not.2 rfl), find_eq hk (reset_eq_false hk hne) hn hlt]
    rfl
  · rintro hne requestedId hid
    obtain ⟨hlow, hhigh⟩ := hnewestPos hne
    refine bufferNonite_eq hk hne requestedId 0 hlow hhigh ?_
    rw [if_neg (not_not.2 rfl), find_eq_none hk (reset_eq_false hk hne) hne hid]
    rfl

theorem syncLaw : SyncLaw s where
  pending dataLength version scheduleRc hsync := by
    unfold Snapshots.cmdhSnapshotSync
    rw [if_neg (not_not.2 hsync.1), if_neg (not_not.2 hsync.2)]
    dsimp only
    split <;> rfl
  refused dataLength version scheduleRc hsync := by
    unfold Snapshots.cmdhSnapshotSync
    by_cases hlen : dataLength.setWidth 8 = cmdhSnapshotSyncDataSize
    · rw [if_neg (not_not.2 hlen), if_pos fun hversion => hsync ⟨hlen, hversion⟩]
    · rw [if_pos hlen]
  history hreset state := by
    unfold Snapshots.cmdhSnapshotCallback
    rw [if_pos hreset]
    exact ⟨fun i hi => if_pos hi, fun j hj => if_pos hj, rfl, rfl, rfl, rfl⟩
  outside hreset state := by
    unfold Snapshots.cmdhSnapshotCallback
    rw [if_pos hreset]
    refine ⟨fun i hi => if_neg (Nat.not_lt.2 hi), fun j hj => ?_, rfl⟩
    exact (if_neg (Nat.not_lt.2 hj.le)).trans (if_neg hj.ne')

/-- After every run from the start of the image. -/
theorem snapshotLaw_run {array : Nat → SnapshotBuffer} {cimBuf : Nat → CimpEntry} {gsid : BitVec 16}
    {mini : Option (BitVec 16)} {es : List SnapshotEvent}
    (hrun : Run (StepOf snapshotStep) (.boot array cimBuf gsid mini, []) es (s, h)) : SnapshotLaw s h ∧ SyncLaw s :=
  ⟨.of_keeps (keeps_run hrun keeps_boot), syncLaw⟩

end

/-- The globals after the first callback, which clears the history. -/
def cleared : Snapshots :=
  (Snapshots.boot (fun _ => .zero) (fun _ => .zero) 0 none).step (.callback .active)

def oneSnapshot : Snapshots := cleared.step (.callback .active)

theorem snapshotLaw_run_one : SnapshotLaw oneSnapshot [cleared.newEntry] ∧ SyncLaw oneSnapshot :=
  @snapshotLaw_run oneSnapshot [cleared.newEntry] (fun _ => .zero) (fun _ => .zero) 0 none
    [.callback .active, .callback .active] (.cons rfl (.single rfl))

/-- A request for a snapshot that is not stored succeeds, with another one. -/
theorem missing_snapshot_answered :
    (∀ i < cmdhSnapshotMax, (oneSnapshot.array i).currentId ≠ 5) ∧
      ∃ oldestId newestId snapshot, oneSnapshot.cmdhGetSnapshotBuffer false 4 0 5 0 =
        .snapshot oldestId newestId snapshot ∧ snapshot.currentId = 0 := by
  refine ⟨by decide, _, _, _, rfl, by decide⟩

end Occ.Cmdh
