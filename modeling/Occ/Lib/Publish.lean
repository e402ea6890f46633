/-
Publication by a job that runs later: a buffer is rewritten together with a note that names a place, a job
is scheduled that reads the buffer piece by piece and stores it at its place, and when the job is over the
note is announced as it is by then. What is announced is what the job was scheduled with as long as nothing is
rewritten under a job.
-/
import Mathlib.Data.List.Nodup
import Mathlib.Tactic.Common

namespace Occ.Publish

variable {β ν α : Type}

/-- A job, with the buffer and the note as they were when it was scheduled and what it has read since. -/
structure Job (β ν α : Type) where
  number : Nat
  place : α
  buffer : β
  note : ν
  read : List β

/-- An announcement: the note, how many of its parts were sent, by the end of which job, and whether that job
did its work. -/
structure Notice (β ν α : Type) where
  note : ν
  parts : Nat
  job : Job β ν α
  done : Bool

structure Board (β ν α : Type) where
  buffer : β
  note : ν
  job : Option (Job β ν α)
  scheduled : Nat
  notices : List (Notice β ν α)

namespace Board

def rewrite (s : Board β ν α) (b : β) (n : ν) : Board β ν α := { s with buffer := b, note := n }

def schedule (s : Board β ν α) (place : α) : Board β ν α :=
  { s with job := some ⟨s.scheduled, place, s.buffer, s.note, []⟩, scheduled := s.scheduled + 1 }

/-- The job reads a piece of the buffer. -/
def read (s : Board β ν α) : Board β ν α :=
  { s with job := s.job.map fun j => { j with read := s.buffer :: j.read } }

/-- The job is over, and as many parts of the note are sent. -/
def finish (s : Board β ν α) (done : Bool) (parts : Nat) : Board β ν α :=
  match s.job with
  | none => s
  | some j =>
    { s with job := none, notices := if 0 < parts then ⟨s.note, parts, j, done⟩ :: s.notices else s.notices }

end Board

/-! ## One announcement for each job -/

/-- Jobs have numbers of their own, and a job that is under way has announced nothing. -/
structure Numbered (s : Board β ν α) : Prop where
  job : ∀ j, s.job = some j → j.number < s.scheduled ∧ ∀ n ∈ s.notices, n.job.number ≠ j.number
  notices : ∀ n ∈ s.notices, n.job.number < s.scheduled
  once : (s.notices.map (·.job.number)).Nodup

namespace Numbered

variable {s : Board β ν α}

theorem rewrite (h : Numbered s) (b : β) (n : ν) : Numbered (s.rewrite b n) := ⟨h.job, h.notices, h.once⟩

theorem schedule (h : Numbered s) (place : α) : Numbered (s.schedule place) where
  job := by
    rintro j ⟨⟩
    exact ⟨Nat.lt_succ_self _, fun n hn => Nat.ne_of_lt (h.notices n hn)⟩
  notices n hn := Nat.lt_succ_of_lt (h.notices n hn)
  once := h.once

theorem read (h : Numbered s) : Numbered s.read where
  job := by
    intro j hj
    obtain ⟨i, hi, rfl⟩ := Option.map_eq_some_iff.1 hj
    exact h.job i hi
  notices := h.notices
  once := h.once

theorem finish (h : Numbered s) (done : Bool) (parts : Nat) : Numbered (s.finish done parts) := by
  unfold Board.finish
  split
  · exact h
  · rename_i j hj
    obtain ⟨hlt, hne⟩ := h.job j hj
    by_cases hp : 0 < parts
    · simp only [if_pos hp]
      constructor
      · rintro i ⟨⟩
      · intro n hn
        rcases List.mem_cons.1 hn with rfl | hn
        · exact hlt
        · exact h.notices n hn
      · refine List.nodup_cons.2 ⟨fun hmem => ?_, h.once⟩
        obtain ⟨n, hn, he⟩ := List.mem_map.1 hmem
        exact hne n hn he
    · simp only [if_neg hp]
      exact ⟨by rintro i ⟨⟩, h.notices, h.once⟩

end Numbered

/-! ## Nothing is rewritten under a job -/

/-- The job was given the place that its note names, has read one buffer only, and the note is still there. -/
structure Job.Sound (place : ν → α) (j : Job β ν α) : Prop where
  place : place j.note = j.place
  read : ∀ b ∈ j.read, b = j.buffer

structure Notice.Sound (place : ν → α) (n : Notice β ν α) : Prop where
  done : n.done = true
  note : n.note = n.job.note
  job : n.job.Sound place

structure Faithful (place : ν → α) (s : Board β ν α) : Prop where
  /-- What a job reads and what it will announce is as it was when it was scheduled. -/
  frozen : ∀ j, s.job = some j → s.buffer = j.buffer ∧ s.note = j.note
  job : ∀ j, s.job = some j → j.Sound place
  notices : ∀ n ∈ s.notices, n.Sound place

namespace Faithful

variable {place : ν → α} {s : Board β ν α}

theorem rewrite (h : Faithful place s) (hjob : s.job = none) (b : β) (n : ν) : Faithful place (s.rewrite b n) where
  frozen _ hj := nomatch hjob.symm.trans hj
  job := h.job
  notices := h.notices

theorem schedule (h : Faithful place s) : Faithful place (s.schedule (place s.note)) where
  frozen := by
    rintro j ⟨⟩
    exact ⟨rfl, rfl⟩
  job := by
    rintro j ⟨⟩
    exact ⟨rfl, by simp⟩
  notices := h.notices

theorem read (h : Faithful place s) : Faithful place s.read where
  frozen := by
    intro j hj
    obtain ⟨i, hi, rfl⟩ := Option.map_eq_some_iff.1 hj
    exact h.frozen i hi
  job := by
    intro j hj
    obtain ⟨i, hi, rfl⟩ := Option.map_eq_some_iff.1 hj
    refine ⟨(h.job i hi).place, fun b hb => ?_⟩
    rcases List.mem_cons.1 hb with rfl | hb
    · exact (h.frozen i hi).1
    · exact (h.job i hi).read b hb
  notices := h.notices

theorem finish (h : Faithful place s) {done : Bool} {parts : Nat} (hok : done = true ∨ parts = 0) :
    Faithful place (s.finish done parts) := by
  unfold Board.finish
  split
  · exact h
  · rename_i j hj
    refine ⟨by rintro i ⟨⟩, by rintro i ⟨⟩, fun n hn => ?_⟩
    by_cases hp : 0 < parts
    · rw [if_pos hp] at hn
      rcases List.mem_cons.1 hn with rfl | hn
      · exact ⟨hok.resolve_right (Nat.pos_iff_ne_zero.1 hp), (h.frozen j hj).2, h.job j hj⟩
      · exact h.notices n hn
    · rw [if_neg hp] at hn
      exact h.notices n hn

end Faithful

end Occ.Publish
