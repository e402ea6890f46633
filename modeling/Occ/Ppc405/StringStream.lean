/-
String streams (`string_stream.c`): a buffer that is read and written around, with a flag that tells a full one from an empty
one. A circular stream accepts what there is room for, a wrapping one writes over what has not been read.

A circular stream is a queue: it gives the bytes it has accepted, in order. A wrapping stream keeps the last bytes, as long as
no write is longer than its buffer: the copy that fills the whole buffer takes the length of the write for that of the buffer.
-/
import Occ.Lib.Ring
import Occ.Lib.Staged
import Mathlib.Data.List.Induction

namespace Occ.Ppc405

open Occ.Staged (Byte Memory)
open Occ.Ring (Window)

/-! ## Streams -/

/-- A string stream; `data` is the memory from its buffer on, of which the first `size` bytes belong to it. -/
structure StringStream where
  data : Memory
  size : Nat
  nextWrite : Nat
  nextRead : Nat
  full : Bool

/-- `_string_stream_create` -/
def stringStreamCreate (data : Memory) (size : Nat) : StringStream := ⟨data, size, 0, 0, false⟩

/-- The two kinds of streams that are written to with the functions below. -/
inductive StreamKind
  | circular | wrapping
deriving DecidableEq

inductive StreamRc
  | success | eagain | panic
deriving DecidableEq

/-- A `memcpy` between the buffer and the caller's data: where it begins in both, and its length. -/
structure Copy where
  buffer : Nat
  caller : Nat
  count : Nat

/-- `memcpy(&m[p], buf + offset, n)` -/
def memcpy (m : Memory) (p : Nat) (buf : Memory) (offset n : Nat) : Memory := fun x =>
  if p ≤ x ∧ x < p + n then buf (offset + (x - p)) else m x

/-- The `n` bytes from `a` on. -/
def bytesAt (m : Memory) (a n : Nat) : List Byte := (List.range n).map fun i => m (a + i)

@[simp] theorem bytesAt_length (m : Memory) (a n : Nat) : (bytesAt m a n).length = n := by
  unfold bytesAt
  rw [List.length_map, List.length_range]

/-! ## Reading -/

/-- The stream after a read, the bytes that were read, and the copies to the caller. -/
structure ReadPart where
  stream : StringStream
  bytes : List Byte
  copies : List Copy

/-- `read_tail`, to the caller's `buf + caller` -/
def readTail (s : StringStream) (caller size : Nat) : ReadPart :=
  if s.nextWrite ≤ s.nextRead then
    let remainder := s.size - s.nextRead
    let read := min size remainder
    ⟨{ s with nextRead := if read ≠ remainder then s.nextRead + read else 0 }, bytesAt s.data s.nextRead read,
      [⟨s.nextRead, caller, read⟩]⟩
  else ⟨s, [], []⟩

/-- `read_head` -/
def readHead (s : StringStream) (caller size : Nat) : ReadPart :=
  if s.nextRead < s.nextWrite then
    let remainder := s.nextWrite - s.nextRead
    let read := min size remainder
    ⟨{ s with nextRead := s.nextRead + read }, bytesAt s.data s.nextRead read, [⟨s.nextRead, caller, read⟩]⟩
  else ⟨s, [], []⟩

/-- The two parts of a read from a stream that is not empty. -/
def readParts (s : StringStream) (size : Nat) : ReadPart :=
  let tail := readTail s 0 size
  if tail.bytes.length ≠ size then
    let head := readHead tail.stream tail.bytes.length (size - tail.bytes.length)
    ⟨head.stream, tail.bytes ++ head.bytes, tail.copies ++ head.copies⟩
  else tail

/-- `string_stream_sread` -/
def stringStreamSread (s : StringStream) (size : Nat) : ReadPart × StreamRc :=
  let were := if s.nextRead = s.nextWrite ∧ s.full = false then ⟨s, [], []⟩ else readParts s size
  ({ were with stream := { were.stream with full := if were.bytes.length ≠ 0 then false else were.stream.full } },
    if were.bytes.length < size then .eagain else .success)

/-! ## Writing -/

/-- The stream after a write, the number of bytes that were written, and the copies from the caller. -/
structure WritePart where
  stream : StringStream
  written : Nat
  copies : List Copy

/-- `write_tail`, from the caller's `buf + caller` -/
def writeTail (s : StringStream) (buf : Memory) (caller size : Nat) : WritePart :=
  if s.nextRead ≤ s.nextWrite then
    let remainder := s.size - s.nextWrite
    let written := min size remainder
    ⟨{ s with data := memcpy s.data s.nextWrite buf caller written
              nextWrite := if written ≠ remainder then s.nextWrite + written else 0 }, written,
      [⟨s.nextWrite, caller, written⟩]⟩
  else ⟨s, 0, []⟩

/-- `write_head` -/
def writeHead (s : StringStream) (buf : Memory) (caller size : Nat) : WritePart :=
  if s.nextWrite < s.nextRead then
    let remainder := s.nextRead - s.nextWrite
    let written := min size remainder
    ⟨{ s with data := memcpy s.data s.nextWrite buf caller written, nextWrite := s.nextWrite + written }, written,
      [⟨s.nextWrite, caller, written⟩]⟩
  else ⟨s, 0, []⟩

/-- The two parts of a write to a stream that is not full. -/
def writeParts (s : StringStream) (buf : Memory) (caller size : Nat) : WritePart :=
  let tail := writeTail s buf caller size
  if tail.written ≠ size then
    let head := writeHead tail.stream buf (caller + tail.written) (size - tail.written)
    ⟨head.stream, tail.written + head.written, tail.copies ++ head.copies⟩
  else tail

/-- `circular_swrite` -/
def circularSwrite (s : StringStream) (buf : Memory) (caller size : Nat) : WritePart × StreamRc :=
  let wrote := if s.full then ⟨s, 0, []⟩ else writeParts s buf caller size
  ({ wrote with stream := { wrote.stream with
        full := if wrote.written ≠ 0 ∧ wrote.stream.nextRead = wrote.stream.nextWrite then true else wrote.stream.full } },
    if wrote.written < size then .eagain else .success)

/-- `wrapping_swrite` -/
def wrappingSwrite (s : StringStream) (buf : Memory) (size : Nat) : WritePart × StreamRc :=
  if s.size ≤ size then
    (⟨{ s with nextRead := 0, nextWrite := 0, full := true, data := memcpy s.data 0 buf (size - s.size) size }, size,
      [⟨0, size - s.size, size⟩]⟩, .success)
  else
    let first := if s.full then (⟨s, 0, []⟩, .eagain) else circularSwrite s buf 0 size
    if first.2 = .success then (⟨first.1.stream, size, first.1.copies⟩, .success)
    else
      -- `next_read == next_write`: the stream is written to as an empty one, and is full again afterwards
      let second := circularSwrite { first.1.stream with full := false } buf first.1.written (size - first.1.written)
      if second.2 = .success then
        (⟨{ second.1.stream with nextRead := second.1.stream.nextWrite, full := true }, size,
          first.1.copies ++ second.1.copies⟩, .success)
      else (⟨second.1.stream, size, first.1.copies ++ second.1.copies⟩, .panic)

/-- `swrite` of a stream of a kind -/
def swrite (kind : StreamKind) (s : StringStream) (buf : Memory) (size : Nat) : WritePart × StreamRc :=
  match kind with
  | .circular => circularSwrite s buf 0 size
  | .wrapping => wrappingSwrite s buf size

/-! ## Runs -/

/-- A call: a read, or a write of the first `size` bytes of the caller's data. -/
inductive StreamOp
  | read (size : Nat)
  | write (buf : Memory) (size : Nat)

/-- A stream with the bytes that it has given to readers and those that it has accepted. -/
structure StreamRun where
  stream : StringStream
  given : List Byte
  accepted : List Byte

def StreamRun.step (kind : StreamKind) (x : StreamRun) : StreamOp → StreamRun
  | .read size =>
    let r := stringStreamSread x.stream size
    ⟨r.1.stream, x.given ++ r.1.bytes, x.accepted⟩
  | .write buf size =>
    let w := swrite kind x.stream buf size
    ⟨w.1.stream, x.given, x.accepted ++ bytesAt buf 0 w.1.written⟩

/-- Calls one after another, on a new stream. -/
def streamRun (kind : StreamKind) (data : Memory) (size : Nat) (ops : List StreamOp) : StreamRun :=
  ops.foldl (StreamRun.step kind) ⟨stringStreamCreate data size, [], []⟩

/-! ## The law -/

namespace StringStream

/-- The number of bytes that are stored. -/
def count (s : StringStream) : Nat := if s.full then s.size else (s.nextWrite + s.size - s.nextRead) % s.size

/-- The bytes that are stored, from `next_read` around the buffer. -/
def content (s : StringStream) : List Byte := (List.range s.count).map fun i => s.data ((s.nextRead + i) % s.size)

end StringStream

/-- A copy stays inside the buffer and inside the caller's `size` bytes. -/
def Copy.Inside (c : Copy) (bufferSize size : Nat) : Prop := c.buffer + c.count ≤ bufferSize ∧ c.caller + c.count ≤ size

/-- The last `n` entries of a list. -/
def lastOf {α : Type} (n : Nat) (l : List α) : List α := l.drop (l.length - n)

/-- What a call does, to a stream before it. -/
def OpLaw (kind : StreamKind) (s : StringStream) : StreamOp → Prop
  | .read size =>
    let r := stringStreamSread s size
    r.1.bytes = s.content.take size ∧ r.1.bytes.length = min size s.count ∧ (r.2 = .success ↔ size ≤ s.count) ∧
      r.1.stream.content = s.content.drop size ∧ (∀ c ∈ r.1.copies, c.Inside s.size size) ∧ r.1.stream.data = s.data
  | .write buf size =>
    let w := swrite kind s buf size
    (match kind with
      | .circular => w.1.written = min size (s.size - s.count) ∧ (w.2 = .success ↔ size ≤ s.size - s.count) ∧
          w.1.stream.content = s.content ++ bytesAt buf 0 w.1.written
      | .wrapping => w.1.written = size ∧ w.2 = .success ∧
          w.1.stream.content = lastOf s.size (s.content ++ bytesAt buf 0 size)) ∧
      (∀ c ∈ w.1.copies, c.Inside s.size size) ∧ ∀ p, s.size ≤ p → w.1.stream.data p = s.data p

/-- The law of a run: every call does what it should, and a circular stream gives the bytes that it has accepted. -/
structure StreamLaw (kind : StreamKind) (data : Memory) (size : Nat) (ops : List StreamOp) : Prop where
  each : ∀ before op after, ops = before ++ op :: after → OpLaw kind (streamRun kind data size before).stream op
  fifo : kind = .circular → (streamRun kind data size ops).given ++ (streamRun kind data size ops).stream.content =
    (streamRun kind data size ops).accepted

/-- The condition: a wrapping stream is never given more bytes at once than its buffer has. -/
def StreamOk (kind : StreamKind) (size : Nat) (ops : List StreamOp) : Prop :=
  kind = .wrapping → ∀ buf n, .write buf n ∈ ops → n ≤ size

/-! ## What is stored -/

/-- The stored bytes are `log`. -/
structure Holds (s : StringStream) (log : List Byte) : Prop where
  read_lt : s.nextRead < s.size
  write_eq : s.nextWrite = (s.nextRead + log.length) % s.size
  full_iff : s.full = true ↔ log.length = s.size
  window : Window s.size s.nextRead s.data log 0

section

variable {s : StringStream} {log : List Byte} {buf : Memory} {caller size k : Nat}

theorem Holds.le (h : Holds s log) : log.length ≤ s.size := by
  have := h.window.size
  omega

theorem mod_cases {r l n : Nat} (hr : r < n) (hl : l ≤ n) : (r + l < n ∧ (r + l) % n = r + l) ∨ (n ≤ r + l ∧ (r + l) % n = r + l - n) := by
  by_cases h : r + l < n
  · exact .inl ⟨h, Nat.mod_eq_of_lt h⟩
  · refine .inr ⟨by omega, ?_⟩
    rw [Nat.mod_eq_sub_mod (by omega), Nat.mod_eq_of_lt (by omega)]

theorem Holds.count_eq (h : Holds s log) : s.count = log.length := by
  have hread := h.read_lt
  have hle := h.le
  unfold StringStream.count
  split
  · rename_i hfull
    exact (h.full_iff.1 hfull).symm
  · rename_i hfull
    have hne := mt h.full_iff.2 hfull
    rw [h.write_eq]
    obtain ⟨hlt, hmod⟩ | ⟨hge, hmod⟩ := mod_cases hread hle
    · rw [hmod, show s.nextRead + log.length + s.size - s.nextRead = log.length + s.size by omega, Nat.add_mod_right,
        Nat.mod_eq_of_lt (by omega)]
    · rw [hmod, show s.nextRead + log.length - s.size + s.size - s.nextRead = log.length by omega,
        Nat.mod_eq_of_lt (by omega)]

theorem Holds.content_eq (h : Holds s log) : s.content = log := by
  unfold StringStream.content
  rw [h.count_eq]
  refine List.ext_getElem? fun i => ?_
  by_cases hi : i < log.length
  · rw [h.window.slots i (Nat.zero_le _) hi, List.getElem?_map, List.getElem?_range hi]
    rfl
  · have hlength : ((List.range log.length).map fun i => s.data ((s.nextRead + i) % s.size)).length = log.length := by
      rw [List.length_map, List.length_range]
    rw [List.getElem?_eq_none (Nat.le_of_not_lt hi), List.getElem?_eq_none (by omega)]

theorem holds_create (data : Memory) (hsize : 0 < size) : Holds (stringStreamCreate data size) [] where
  read_lt := hsize
  write_eq := (Nat.zero_mod _).symm
  full_iff := ⟨nofun, fun h => absurd h (Nat.ne_of_lt hsize)⟩
  window := .empty

/-! ## A read -/

theorem Holds.slice (h : Holds s log) {i p : Nat} (hik : i + k ≤ log.length) (hp : p = (s.nextRead + i) % s.size)
    (hfit : p + k ≤ s.size) : bytesAt s.data p k = (log.drop i).take k := by
  refine List.ext_getElem? fun j => ?_
  by_cases hj : j < k
  · have hmod : (s.nextRead + (i + j)) % s.size = p + j := by
      rw [← Nat.add_assoc, ← Nat.mod_add_mod, ← hp, Nat.mod_eq_of_lt (by omega)]
    rw [List.getElem?_take_of_lt hj, List.getElem?_drop, h.window.slots (i + j) (Nat.zero_le _) (by omega), hmod]
    unfold bytesAt
    rw [List.getElem?_map, List.getElem?_range hj]
    rfl
  · rw [List.getElem?_eq_none (by rw [bytesAt_length]; omega),
      List.getElem?_eq_none (by rw [List.length_take]; omega)]

/-- What the two parts of a read do: they go `k` bytes on. -/
structure Reads (s : StringStream) (log : List Byte) (size k : Nat) (r : ReadPart) : Prop where
  stream : r.stream = { s with nextRead := (s.nextRead + k) % s.size }
  bytes : r.bytes = log.take k
  inside : ∀ c ∈ r.copies, c.Inside s.size size

theorem Holds.reads (h : Holds s log) (hne : 0 < log.length) (size : Nat) :
    Reads s log size (min size log.length) (readParts s size) := by
  have hread := h.read_lt
  have hle := h.le
  have hwrite := h.write_eq
  unfold readParts readTail
  by_cases hwrap : s.nextWrite ≤ s.nextRead
  · -- the stored bytes go around the end of the buffer
    rw [if_pos hwrap]
    obtain ⟨-, hmod⟩ | ⟨hge, hmod⟩ := mod_cases hread hle
    · omega
    · rw [hmod] at hwrite
      dsimp only
      rw [bytesAt_length]
      by_cases hsize : size < s.size - s.nextRead
      · rw [Nat.min_eq_left (by omega), Nat.min_eq_left (by omega), if_neg (by omega), if_pos (by omega)]
        refine ⟨?_, ?_, ?_⟩
        · rw [Nat.mod_eq_of_lt (by omega)]
        · exact h.slice (i := 0) (by omega) (by rw [Nat.add_zero, Nat.mod_eq_of_lt hread]) (by omega)
        · intro c hc
          rw [List.mem_singleton.1 hc]
          exact ⟨by show s.nextRead + size ≤ s.size; omega, by show 0 + size ≤ size; omega⟩
      · have htail : bytesAt s.data s.nextRead (s.size - s.nextRead) = log.take (s.size - s.nextRead) :=
          h.slice (i := 0) (by omega) (by rw [Nat.add_zero, Nat.mod_eq_of_lt hread]) (by omega)
        have hinside : (⟨s.nextRead, 0, s.size - s.nextRead⟩ : Copy).Inside s.size size := by
          constructor <;> dsimp only <;> omega
        have hrem : min size (s.size - s.nextRead) = s.size - s.nextRead := by omega
        rw [hrem, if_neg (not_not.2 rfl), htail]
        by_cases hall : s.size - s.nextRead = size
        · rw [if_neg (not_not.2 hall), Nat.min_eq_left (by omega), hall]
          refine ⟨?_, rfl, ?_⟩
          · rw [show s.nextRead + size = s.size by omega, Nat.mod_self]
          · intro c hc
            rw [List.mem_singleton.1 hc, ← hall]
            exact hall ▸ hinside
        · rw [if_pos hall]
          unfold readHead
          dsimp only
          by_cases hhead : 0 < s.nextWrite
          · have hbytes : bytesAt s.data 0 (min (size - (s.size - s.nextRead)) (s.nextWrite - 0)) =
                (log.drop (s.size - s.nextRead)).take (min (size - (s.size - s.nextRead)) (s.nextWrite - 0)) :=
              h.slice (by omega) (by rw [show s.nextRead + (s.size - s.nextRead) = s.size by omega, Nat.mod_self]) (by omega)
            have hk : min size log.length =
                s.size - s.nextRead + min (size - (s.size - s.nextRead)) (s.nextWrite - 0) := by omega
            rw [if_pos hhead, hk, hbytes]
            refine ⟨?_, List.take_add.symm, ?_⟩
            · dsimp only
              rw [show s.nextRead + (s.size - s.nextRead + min (size - (s.size - s.nextRead)) (s.nextWrite - 0)) =
                s.size + min (size - (s.size - s.nextRead)) (s.nextWrite - 0) by omega, Nat.add_mod_left,
                Nat.mod_eq_of_lt (by omega), Nat.zero_add]
            · intro c hc
              rcases List.mem_append.1 hc with hc | hc
              · rw [List.mem_singleton.1 hc]
                exact hinside
              · rw [List.mem_singleton.1 hc]
                constructor <;> dsimp only <;> omega
          · have hk : min size log.length = s.size - s.nextRead := by omega
            rw [if_neg hhead, hk]
            refine ⟨?_, List.append_nil _, ?_⟩
            · rw [show s.nextRead + (s.size - s.nextRead) = s.size by omega, Nat.mod_self]
            · intro c hc
              rw [List.append_nil] at hc
              rw [List.mem_singleton.1 hc]
              exact hinside
  · -- the stored bytes are between the two pointers
    rw [if_neg hwrap]
    obtain ⟨hlt, hmod⟩ | ⟨hge, hmod⟩ := mod_cases hread hle
    · rw [hmod] at hwrite
      dsimp only
      by_cases hzero : size = 0
      · rw [if_neg (show ¬([] : List Byte).length ≠ size from not_not.2 hzero.symm), hzero, Nat.zero_min]
        exact ⟨by rw [Nat.add_zero, Nat.mod_eq_of_lt hread], rfl, nofun⟩
      · have hk : min (size - 0) (s.nextWrite - s.nextRead) = min size log.length := by omega
        have hbytes : bytesAt s.data s.nextRead (min size log.length) = log.take (min size log.length) :=
          h.slice (i := 0) (by omega) (by rw [Nat.add_zero, Nat.mod_eq_of_lt hread]) (by omega)
        unfold readHead
        rw [if_pos (show ([] : List Byte).length ≠ size from fun h0 => hzero h0.symm), if_pos (by omega)]
        dsimp only [List.length_nil]
        rw [hk, hbytes]
        refine ⟨?_, rfl, ?_⟩
        · rw [Nat.mod_eq_of_lt (by omega)]
        · intro c hc
          rw [List.nil_append] at hc
          rw [List.mem_singleton.1 hc]
          constructor <;> dsimp only <;> omega
    · omega

theorem Holds.skip (h : Holds s log) (hk : k ≤ log.length) :
    Holds { s with nextRead := (s.nextRead + k) % s.size, full := if k ≠ 0 then false else s.full } (log.drop k) where
  read_lt := Nat.mod_lt _ (Nat.zero_lt_of_lt h.read_lt)
  write_eq := by
    rw [List.length_drop]
    dsimp only
    rw [Nat.mod_add_mod, h.write_eq, Nat.add_assoc, Nat.add_sub_cancel' hk]
  full_iff := by
    have hle := h.le
    have hpos := Nat.zero_lt_of_lt h.read_lt
    rw [List.length_drop]
    dsimp only
    by_cases hzero : k = 0
    · rw [if_neg (not_not.2 hzero), hzero, Nat.sub_zero]
      exact h.full_iff
    · rw [if_pos hzero]
      exact ⟨nofun, fun heq => by omega⟩
  window := (h.window.skip (Nat.zero_le k) hk).drop

/-- What a read does. -/
structure Sread (s : StringStream) (log : List Byte) (size : Nat) (r : ReadPart × StreamRc) : Prop where
  bytes : r.1.bytes = log.take size
  rc : r.2 = .success ↔ size ≤ log.length
  holds : Holds r.1.stream (log.drop size)
  same : r.1.stream.size = s.size ∧ r.1.stream.data = s.data
  inside : ∀ c ∈ r.1.copies, c.Inside s.size size

theorem Holds.sread (h : Holds s log) (size : Nat) : Sread s log size (stringStreamSread s size) := by
  have hread := h.read_lt
  have hwrite := h.write_eq
  have hle := h.le
  have htake : log.take (min size log.length) = log.take size := by rw [← List.take_take, List.take_length]
  have hdrop : log.drop (min size log.length) = log.drop size := by
    by_cases hsize : size ≤ log.length
    · rw [Nat.min_eq_left hsize]
    · rw [Nat.min_eq_right (by omega), List.drop_length, List.drop_eq_nil_of_le (by omega)]
  have hrc : ∀ n, n = min size log.length → ((if n < size then StreamRc.eagain else .success) = .success ↔ size ≤ log.length) := by
    rintro n rfl
    split
    · exact ⟨nofun, fun _ => by omega⟩
    · exact iff_of_true rfl (by omega)
  unfold stringStreamSread
  dsimp only
  split
  · rename_i hempty
    obtain ⟨heq, hfull⟩ := hempty
    have hnil : log = [] := by
      have hne : log.length ≠ s.size := fun hl => absurd (h.full_iff.2 hl) (by rw [hfull]; decide)
      refine List.eq_nil_of_length_eq_zero ?_
      obtain ⟨-, hmod⟩ | ⟨hge, hmod⟩ := mod_cases hread hle
      · omega
      · omega
    subst hnil
    have hskip := h.skip (k := 0) (Nat.zero_le _)
    rw [Nat.add_zero, Nat.mod_eq_of_lt hread] at hskip
    refine ⟨List.take_nil.symm, hrc 0 (by rw [List.length_nil, Nat.min_zero]), ?_, ⟨rfl, rfl⟩, nofun⟩
    rw [List.drop_nil]
    exact hskip
  · rename_i hsome
    have hpos : 0 < log.length := by
      refine Nat.pos_of_ne_zero fun hzero => hsome ⟨?_, ?_⟩
      · rw [hwrite, hzero, Nat.add_zero, Nat.mod_eq_of_lt hread]
      · refine Bool.eq_false_iff.2 fun hfull => ?_
        have := h.full_iff.1 hfull
        omega
    obtain ⟨hstream, hbytes, hinside⟩ := h.reads hpos size
    have hlength : (readParts s size).bytes.length = min size log.length := by
      rw [hbytes, List.length_take, Nat.min_eq_left (Nat.min_le_right _ _)]
    rw [hlength]
    refine ⟨hbytes.trans htake, hrc _ rfl, ?_, ?_, hinside⟩
    · rw [← hdrop]
      dsimp only
      rw [hstream]
      exact h.skip (Nat.min_le_right _ _)
    · dsimp only
      rw [hstream]
      exact ⟨rfl, rfl⟩

/-! ## A write -/

/-- The room between the write pointer and the read pointer, in a stream that is not full. -/
def room (s : StringStream) : Nat :=
  if s.nextRead ≤ s.nextWrite then s.size - s.nextWrite + s.nextRead else s.nextRead - s.nextWrite

/-- What the two parts of a write do: `k` bytes go around the buffer. -/
structure Stores (s : StringStream) (buf : Memory) (caller k : Nat) (w : WritePart) : Prop where
  stream : w.stream = { s with data := w.stream.data, nextWrite := (s.nextWrite + k) % s.size }
  written : w.written = k
  stored : ∀ i, i < k → w.stream.data ((s.nextWrite + i) % s.size) = buf (caller + i)
  other : ∀ p, (∀ i, i < k → p ≠ (s.nextWrite + i) % s.size) → w.stream.data p = s.data p
  inside : ∀ c ∈ w.copies, c.buffer + c.count ≤ s.size ∧ c.caller + c.count ≤ caller + k

theorem memcpy_inside {m : Memory} {p offset n x : Nat} (h : p ≤ x) (h' : x < p + n) :
    memcpy m p buf offset n x = buf (offset + (x - p)) := if_pos ⟨h, h'⟩

theorem memcpy_outside {m : Memory} {p offset n x : Nat} (h : x < p ∨ p + n ≤ x) : memcpy m p buf offset n x = m x :=
  if_neg fun hx => by omega

theorem stores_memcpy {w : Nat} (hw : w = (s.nextWrite + k) % s.size) (hwrite : s.nextWrite < s.size)
    (hfit : s.nextWrite + k ≤ s.size) :
    Stores s buf caller k ⟨{ s with data := memcpy s.data s.nextWrite buf caller k, nextWrite := w }, k,
      [⟨s.nextWrite, caller, k⟩]⟩ where
  stream := by rw [hw]
  written := rfl
  stored i hi := by
    dsimp only
    rw [Nat.mod_eq_of_lt (by omega), memcpy_inside (by omega) (by omega), Nat.add_sub_cancel_left]
  other p hp := by
    refine memcpy_outside ?_
    by_contra hin
    refine hp (p - s.nextWrite) (by omega) ?_
    rw [Nat.mod_eq_of_lt (by omega)]
    omega
  inside c hc := by
    rw [List.mem_singleton.1 hc]
    exact ⟨hfit, Nat.le_refl _⟩

/-- Two copies, the second one from the start of the buffer. -/
theorem stores_around {b : Nat} (hwrite : s.nextWrite < s.size) (hb : b ≤ s.nextWrite) (hlt : b < s.size) :
    Stores s buf caller (s.size - s.nextWrite + b)
      ⟨{ s with data := memcpy (memcpy s.data s.nextWrite buf caller (s.size - s.nextWrite)) 0 buf
                    (caller + (s.size - s.nextWrite)) b
                nextWrite := b }, s.size - s.nextWrite + b,
        [⟨s.nextWrite, caller, s.size - s.nextWrite⟩, ⟨0, caller + (s.size - s.nextWrite), b⟩]⟩ where
  stream := by rw [show s.nextWrite + (s.size - s.nextWrite + b) = s.size + b by omega, Nat.add_mod_left, Nat.mod_eq_of_lt hlt]
  written := rfl
  stored i hi := by
    dsimp only
    obtain ⟨hfit, hmod⟩ | ⟨hwrap, hmod⟩ := mod_cases hwrite (show i ≤ s.size by omega)
    · rw [hmod, memcpy_outside (.inr (by omega)), memcpy_inside (by omega) (by omega), Nat.add_sub_cancel_left]
    · rw [hmod, memcpy_inside (by omega) (by omega)]
      congr 1
      omega
  other p hp := by
    dsimp only
    have hhead : 0 + b ≤ p := by
      by_contra hin
      refine hp (s.size - s.nextWrite + p) (by omega) ?_
      rw [show s.nextWrite + (s.size - s.nextWrite + p) = s.size + p by omega, Nat.add_mod_left, Nat.mod_eq_of_lt (by omega)]
    rw [memcpy_outside (.inr hhead), memcpy_outside]
    by_contra hin
    refine hp (p - s.nextWrite) (by omega) ?_
    rw [Nat.mod_eq_of_lt (by omega)]
    omega
  inside c hc := by
    rcases List.mem_cons.1 hc with rfl | hc
    · constructor <;> dsimp only <;> omega
    · rw [List.mem_singleton.1 hc]
      constructor <;> dsimp only <;> omega

theorem writeParts_stores (hread : s.nextRead < s.size) (hwrite : s.nextWrite < s.size) (buf : Memory) (caller size : Nat) :
    Stores s buf caller (min size (room s)) (writeParts s buf caller size) := by
  unfold writeParts writeTail room
  by_cases hwrap : s.nextRead ≤ s.nextWrite
  · rw [if_pos hwrap, if_pos hwrap]
    dsimp only
    by_cases hsize : size < s.size - s.nextWrite
    · rw [Nat.min_eq_left (by omega), Nat.min_eq_left (by omega), if_neg (by omega), if_pos (by omega)]
      exact stores_memcpy (Nat.mod_eq_of_lt (by omega)).symm hwrite (by omega)
    · have hrem : min size (s.size - s.nextWrite) = s.size - s.nextWrite := by omega
      rw [hrem, if_neg (not_not.2 rfl)]
      have hzero : 0 = (s.nextWrite + (s.size - s.nextWrite)) % s.size := by
        rw [show s.nextWrite + (s.size - s.nextWrite) = s.size by omega, Nat.mod_self]
      have htail : Stores s buf caller (s.size - s.nextWrite) _ := stores_memcpy hzero hwrite (by omega)
      by_cases hall : s.size - s.nextWrite = size
      · rw [if_neg (not_not.2 hall), show min size (s.size - s.nextWrite + s.nextRead) = s.size - s.nextWrite by omega]
        exact htail
      · rw [if_pos hall]
        unfold writeHead
        dsimp only
        by_cases hhead : 0 < s.nextRead
        · rw [if_pos hhead]
          -- the second copy begins at the start of the buffer and ends before the first one
          have hk : min size (s.size - s.nextWrite + s.nextRead) =
              s.size - s.nextWrite + min (size - (s.size - s.nextWrite)) (s.nextRead - 0) := by omega
          rw [hk, Nat.zero_add]
          exact stores_around hwrite (by omega) (by omega)
        · rw [if_neg hhead, show min size (s.size - s.nextWrite + s.nextRead) = s.size - s.nextWrite by omega]
          refine ⟨htail.stream, rfl, htail.stored, htail.other, fun c hc => htail.inside c ?_⟩
          rwa [List.append_nil] at hc
  · rw [if_neg hwrap, if_neg hwrap]
    dsimp only
    by_cases hzero : size = 0
    · rw [if_neg (not_not.2 hzero.symm), hzero, Nat.zero_min]
      exact ⟨by rw [Nat.add_zero, Nat.mod_eq_of_lt hwrite], rfl, nofun, fun _ _ => rfl, nofun⟩
    · unfold writeHead
      rw [if_pos (fun h0 => hzero h0.symm), if_pos (by omega)]
      dsimp only
      rw [Nat.zero_add, Nat.sub_zero, Nat.add_zero, List.nil_append]
      exact stores_memcpy (Nat.mod_eq_of_lt (by omega)).symm hwrite (by omega)

/-- What `circular_swrite` does to a stream that is not full, but for the flag. -/
theorem circularSwrite_stores (hread : s.nextRead < s.size) (hwrite : s.nextWrite < s.size) (hfull : s.full = false)
    (buf : Memory) (caller size : Nat) {w : WritePart × StreamRc} (hw : circularSwrite s buf caller size = w) :
    Stores s buf caller (min size (room s)) { w.1 with stream := { w.1.stream with full := s.full } } ∧
    (w.1.stream.full = true ↔ min size (room s) ≠ 0 ∧ s.nextRead = (s.nextWrite + min size (room s)) % s.size) ∧
    (w.2 = .success ↔ size ≤ room s) := by
  have hstores := writeParts_stores hread hwrite buf caller size
  have hstream := hstores.stream
  unfold circularSwrite at hw
  rw [hfull, if_neg Bool.false_ne_true] at hw
  subst hw
  dsimp only
  rw [hstores.written]
  generalize writeParts s buf caller size = w at hstores hstream
  refine ⟨⟨?_, rfl, hstores.stored, hstores.other, hstores.inside⟩, ?_, ?_⟩
  · rw [hstream]
  · rw [hstream]
    dsimp only
    rw [hfull]
    split
    · rename_i h
      exact iff_of_true rfl h
    · rename_i h
      exact iff_of_false Bool.false_ne_true h
  · split
    · exact ⟨nofun, fun _ => by omega⟩
    · exact iff_of_true rfl (by omega)

theorem Holds.write_lt (h : Holds s log) : s.nextWrite < s.size := by
  rw [h.write_eq]
  exact Nat.mod_lt _ (Nat.zero_lt_of_lt h.read_lt)

theorem Holds.not_full (h : Holds s log) (hfull : s.full = false) : log.length < s.size := by
  have hne : log.length ≠ s.size := fun hl => absurd (h.full_iff.2 hl) (by rw [hfull]; decide)
  exact Nat.lt_of_le_of_ne h.le hne

theorem Holds.room_eq (h : Holds s log) (hfull : s.full = false) : room s = s.size - log.length := by
  have hread := h.read_lt
  have hlt := h.not_full hfull
  have hwrite := h.write_eq
  unfold room
  obtain ⟨hfit, hmod⟩ | ⟨hwrap, hmod⟩ := mod_cases hread h.le
  · rw [hmod] at hwrite
    rw [if_pos (by omega)]
    omega
  · rw [hmod] at hwrite
    rw [if_neg (by omega)]
    omega

theorem bytesAt_getElem? {m : Memory} {a n i : Nat} (hi : i < n) : (bytesAt m a n)[i]? = some (m (a + i)) := by
  unfold bytesAt
  rw [List.getElem?_map, List.getElem?_range hi]
  rfl

theorem bytesAt_append (m : Memory) (a n k : Nat) : bytesAt m a n ++ bytesAt m (a + n) k = bytesAt m a (n + k) := by
  unfold bytesAt
  rw [List.range_add, List.map_append, List.map_map]
  exact congrArg _ (List.map_congr_left fun i _ => congrArg m (Nat.add_assoc a n i))

theorem Holds.append (h : Holds s log) {w : WritePart} (hs : Stores s buf caller k w) (rd : Nat) (hrd : rd ≤ log.length)
    (hfit : log.length + k ≤ rd + s.size) :
    Window s.size s.nextRead w.stream.data (log ++ bytesAt buf caller k) rd := by
  have hplace : ∀ i, (s.nextRead + log.length + i) % s.size = (s.nextWrite + i) % s.size := by
    intro i
    rw [h.write_eq, Nat.mod_add_mod]
  refine h.window.append (fun i hi => ?_) (fun p hp => hs.other p fun i hi => ?_) (Nat.zero_le _) ?_ ?_
  · rw [bytesAt_length] at hi
    rw [bytesAt_getElem? hi, hplace, hs.stored i hi]
  · rw [← hplace]
    exact hp i (by rwa [bytesAt_length])
  · omega
  · rw [bytesAt_length]
    exact hfit

theorem Holds.store (h : Holds s log) {w : WritePart} (hs : Stores s buf caller k w) (hfit : log.length + k ≤ s.size) {f : Bool}
    (hf : f = true ↔ log.length + k = s.size) : Holds { w.stream with full := f } (log ++ bytesAt buf caller k) := by
  have hwindow := h.append hs 0 (Nat.zero_le _) (by omega)
  rw [hs.stream]
  constructor
  · exact h.read_lt
  · dsimp only
    rw [h.write_eq, Nat.mod_add_mod, List.length_append, bytesAt_length, Nat.add_assoc]
  · rw [List.length_append, bytesAt_length]
    exact hf
  · exact hwindow

theorem Holds.overwrite (h : Holds s log) {w : WritePart} (hs : Stores { s with full := false } buf caller k w)
    (hfull : log.length = s.size) (hk : k ≤ s.size) :
    Holds { w.stream with nextRead := w.stream.nextWrite, full := true } ((log ++ bytesAt buf caller k).drop k) := by
  have hwrite : s.nextWrite = s.nextRead := by
    rw [h.write_eq, hfull, Nat.add_mod_right, Nat.mod_eq_of_lt h.read_lt]
  have hstores : Stores s buf caller k { w with stream := { w.stream with full := s.full } } :=
    ⟨by rw [hs.stream], hs.written, hs.stored, hs.other, hs.inside⟩
  have hwindow := (h.append hstores k (by omega) (by omega)).drop
  have hlength : ((log ++ bytesAt buf caller k).drop k).length = s.size := by
    rw [List.length_drop, List.length_append, bytesAt_length, hfull, Nat.add_sub_cancel]
  rw [hs.stream]
  dsimp only at hwindow ⊢
  refine ⟨Nat.mod_lt _ (Nat.zero_lt_of_lt h.read_lt), ?_, ?_, ?_⟩
  · rw [hlength, Nat.add_mod_right, Nat.mod_mod]
  · rw [hlength]
    exact iff_of_true rfl rfl
  · rw [hwrite]
    exact hwindow

/-- What a write does to what is stored. -/
structure Swrite (s : StringStream) (after : List Byte) (size written : Nat) (ok : Prop) (w : WritePart × StreamRc) : Prop where
  written : w.1.written = written
  rc : w.2 = .success ↔ ok
  holds : Holds w.1.stream after
  size_eq : w.1.stream.size = s.size
  inside : ∀ c ∈ w.1.copies, c.Inside s.size size
  outside : ∀ p, s.size ≤ p → w.1.stream.data p = s.data p

theorem Stores.size_eq {w : WritePart} (hs : Stores s buf caller k w) : w.stream.size = s.size := by rw [hs.stream]

theorem Stores.outside {w : WritePart} (hs : Stores s buf caller k w) (hpos : 0 < s.size) {p : Nat} (hp : s.size ≤ p) :
    w.stream.data p = s.data p :=
  hs.other p fun i _ h => by
    have := Nat.mod_lt (s.nextWrite + i) hpos
    omega

theorem Holds.circular (h : Holds s log) (buf : Memory) (caller size : Nat) (total : Nat) (htotal : caller + size ≤ total) :
    Swrite s (log ++ bytesAt buf caller (min size (s.size - log.length))) total (min size (s.size - log.length))
      (size ≤ s.size - log.length) (circularSwrite s buf caller size) := by
  have hpos := Nat.zero_lt_of_lt h.read_lt
  have hle := h.le
  cases hfull : s.full with
  | true =>
    have hlength := h.full_iff.1 hfull
    have hnone : min size (s.size - log.length) = 0 := by omega
    have hsame : circularSwrite s buf caller size = (⟨s, 0, []⟩, if 0 < size then .eagain else .success) := by
      unfold circularSwrite
      rw [hfull, if_pos rfl]
      dsimp only
      rw [if_neg fun hn => hn.1 rfl]
    rw [hsame, hnone]
    refine ⟨rfl, ?_, ?_, rfl, nofun, fun _ _ => rfl⟩
    · dsimp only
      split
      · exact ⟨nofun, fun _ => by omega⟩
      · exact iff_of_true rfl (by omega)
    · exact (List.append_nil log).symm ▸ h
  | false =>
    have hread := h.read_lt
    have hlt := h.not_full hfull
    obtain ⟨hstores, hflag, hrc⟩ := circularSwrite_stores h.read_lt h.write_lt hfull buf caller size rfl
    generalize circularSwrite s buf caller size = w at hstores hflag hrc
    rw [h.room_eq hfull] at hstores hflag hrc
    generalize hk : min size (s.size - log.length) = k at hstores hflag
    have hback : s.nextRead = (s.nextWrite + k) % s.size ↔ k = 0 ∧ log.length = 0 ∨ log.length + k = s.size := by
      rw [h.write_eq, Nat.mod_add_mod, Nat.add_assoc]
      obtain ⟨hfit, hmod⟩ | ⟨hwrap, hmod⟩ := mod_cases h.read_lt (show log.length + k ≤ s.size by omega)
      · rw [hmod]
        omega
      · rw [hmod]
        omega
    have hholds := h.store hstores (f := w.1.stream.full) (by omega) (by rw [hflag, hback]; omega)
    have hinside := hstores.inside
    refine ⟨hstores.written, hrc, hholds, ?_, fun c hc => ?_, fun p hp => hstores.outside hpos hp⟩
    · exact hstores.size_eq
    · have := hinside c hc
      exact ⟨this.1, by omega⟩

theorem Holds.second (h : Holds s log) (hlength : log.length = s.size) (buf : Memory) (caller : Nat) (hsize : size ≤ s.size)
    {w : WritePart × StreamRc} (hw : circularSwrite { s with full := false } buf caller size = w) :
    w.2 = .success ∧ Holds { w.1.stream with nextRead := w.1.stream.nextWrite, full := true }
      ((log ++ bytesAt buf caller size).drop size) ∧ w.1.stream.size = s.size ∧
      (∀ c ∈ w.1.copies, c.Inside s.size (caller + size)) ∧ ∀ p, s.size ≤ p → w.1.stream.data p = s.data p := by
  have hpos := Nat.zero_lt_of_lt h.read_lt
  have hread := h.read_lt
  have hwrite : s.nextWrite = s.nextRead := by
    rw [h.write_eq, hlength, Nat.add_mod_right, Nat.mod_eq_of_lt hread]
  have hroom : room { s with full := false } = s.size := by
    unfold room
    dsimp only
    rw [if_pos (by omega)]
    omega
  obtain ⟨hstores, -, hrc⟩ := circularSwrite_stores (s := { s with full := false }) hread (by rw [hwrite]; exact hread) rfl
    buf caller size hw
  rw [hroom, Nat.min_eq_left hsize] at hstores
  rw [hroom] at hrc
  have hholds := h.overwrite hstores hlength hsize
  exact ⟨hrc.2 hsize, hholds, hstores.size_eq, hstores.inside, fun p hp => hstores.outside hpos hp⟩

/-- A wrapping stream keeps the last bytes. -/
theorem Holds.wrapping (h : Holds s log) (buf : Memory) (hsize : size ≤ s.size) :
    Swrite s (lastOf s.size (log ++ bytesAt buf 0 size)) size size True (wrappingSwrite s buf size) := by
  have hpos := Nat.zero_lt_of_lt h.read_lt
  have hle := h.le
  unfold wrappingSwrite
  by_cases hall : s.size ≤ size
  · -- the whole buffer is written
    obtain rfl : size = s.size := Nat.le_antisymm hsize hall
    have hlast : lastOf s.size (log ++ bytesAt buf 0 s.size) = bytesAt buf 0 s.size := by
      unfold lastOf
      rw [List.length_append, bytesAt_length, Nat.add_sub_cancel, List.drop_left]
    rw [if_pos hall, hlast, Nat.sub_self]
    refine ⟨rfl, iff_of_true rfl trivial, ⟨hpos, ?_, ?_, ?_⟩, rfl, fun c hc => ?_, fun p hp => ?_⟩
    · dsimp only
      rw [bytesAt_length, Nat.zero_add, Nat.mod_self]
    · dsimp only
      rw [bytesAt_length]
      exact iff_of_true rfl rfl
    · refine ⟨Nat.zero_le _, by rw [bytesAt_length]; exact Nat.le_add_left _ _, fun i _ hi => ?_⟩
      rw [bytesAt_length] at hi
      dsimp only
      rw [bytesAt_getElem? hi, Nat.zero_add, Nat.mod_eq_of_lt hi, memcpy_inside (Nat.zero_le _) (by omega), Nat.sub_zero,
        Nat.zero_add]
    · rw [List.mem_singleton.1 hc]
      constructor <;> dsimp only <;> omega
    · exact memcpy_outside (.inr (by omega))
  · rw [if_neg hall]
    dsimp only
    cases hfull : s.full with
    | true =>
      have hlength := h.full_iff.1 hfull
      have hlast : lastOf s.size (log ++ bytesAt buf 0 size) = (log ++ bytesAt buf 0 size).drop size := by
        unfold lastOf
        rw [List.length_append, bytesAt_length, hlength, Nat.add_sub_cancel_left]
      obtain ⟨hrc, hholds, hsame, hinside, houtside⟩ := h.second hlength buf 0 hsize rfl
      rw [if_pos rfl, if_neg nofun]
      dsimp only
      rw [Nat.sub_zero, if_pos hrc, hlast]
      refine ⟨rfl, iff_of_true rfl trivial, hholds, hsame, fun c hc => ?_, houtside⟩
      rw [List.nil_append] at hc
      exact Nat.zero_add size ▸ hinside c hc
    | false =>
      obtain ⟨hwritten, hrc, hholds, hsame, hinside, houtside⟩ := h.circular buf 0 size size (Nat.le_of_eq (Nat.zero_add _))
      rw [if_neg Bool.false_ne_true]
      generalize circularSwrite s buf 0 size = first at hwritten hrc hholds hsame hinside houtside
      by_cases hfits : size ≤ s.size - log.length
      · have hlast : lastOf s.size (log ++ bytesAt buf 0 size) = log ++ bytesAt buf 0 size := by
          unfold lastOf
          rw [List.length_append, bytesAt_length, Nat.sub_eq_zero_of_le (by omega), List.drop_zero]
        rw [if_pos (hrc.2 hfits), hlast]
        rw [Nat.min_eq_left hfits] at hholds
        exact ⟨rfl, iff_of_true rfl trivial, hholds, hsame, hinside, houtside⟩
      · rw [if_neg (mt hrc.1 hfits)]
        rw [Nat.min_eq_right (by omega)] at hwritten hholds
        have hlength : (log ++ bytesAt buf 0 (s.size - log.length)).length = first.1.stream.size := by
          rw [List.length_append, bytesAt_length, hsame, Nat.add_sub_cancel' hle]
        have hlast : lastOf s.size (log ++ bytesAt buf 0 size) = (log ++ bytesAt buf 0 (s.size - log.length) ++
            bytesAt buf (s.size - log.length) (size - (s.size - log.length))).drop (size - (s.size - log.length)) := by
          have hsplit := bytesAt_append buf 0 (s.size - log.length) (size - (s.size - log.length))
          rw [Nat.zero_add, Nat.add_sub_cancel' (by omega)] at hsplit
          unfold lastOf
          rw [List.append_assoc, hsplit, List.length_append, bytesAt_length]
          congr 1
          omega
        obtain ⟨hrc₂, hholds₂, hsame₂, hinside₂, houtside₂⟩ := hholds.second hlength buf (s.size - log.length)
          (show size - (s.size - log.length) ≤ first.1.stream.size by omega) rfl
        rw [hwritten, if_pos hrc₂, hlast]
        refine ⟨rfl, iff_of_true rfl trivial, hholds₂, hsame₂.trans hsame, fun c hc => ?_, fun p hp => ?_⟩
        · rcases List.mem_append.1 hc with hc | hc
          · exact hinside c hc
          · obtain ⟨hbuffer, hcaller⟩ := hinside₂ c hc
            rw [hsame] at hbuffer
            exact ⟨hbuffer, by omega⟩
        · exact (houtside₂ p (by omega)).trans (houtside p hp)

/-! ## Runs -/

variable {kind : StreamKind} {data : Memory} {op : StreamOp} {ops : List StreamOp}

/-- The call does not write more bytes to a wrapping stream than its buffer has. -/
def StreamOp.Ok (kind : StreamKind) (size : Nat) : StreamOp → Prop
  | .read _ => True
  | .write _ n => kind = .wrapping → n ≤ size

theorem Holds.opLaw (h : Holds s log) (hok : op.Ok kind s.size) : OpLaw kind s op := by
  cases op with
  | read size =>
    obtain ⟨hbytes, hrc, hholds, ⟨-, hdata⟩, hinside⟩ := h.sread size
    unfold OpLaw
    dsimp only
    rw [h.content_eq, h.count_eq, hholds.content_eq]
    exact ⟨hbytes, by rw [hbytes, List.length_take], hrc, rfl, hinside, hdata⟩
  | write buf size =>
    cases kind with
    | circular =>
      obtain ⟨hwritten, hrc, hholds, -, hinside, houtside⟩ := h.circular buf 0 size size (Nat.le_of_eq (Nat.zero_add _))
      unfold OpLaw swrite
      dsimp only
      rw [h.content_eq, h.count_eq, hholds.content_eq, hwritten]
      exact ⟨⟨rfl, hrc, rfl⟩, hinside, houtside⟩
    | wrapping =>
      obtain ⟨hwritten, hrc, hholds, -, hinside, houtside⟩ := h.wrapping buf (hok rfl)
      unfold OpLaw swrite
      dsimp only
      rw [h.content_eq, hholds.content_eq]
      exact ⟨⟨hwritten, hrc.2 trivial, rfl⟩, hinside, houtside⟩

theorem ok_of_opLaw (h : OpLaw kind s op) : op.Ok kind s.size := by
  cases op with
  | read size => exact trivial
  | write buf size =>
    rintro rfl
    by_contra hlong
    have hcopy : (⟨0, size - s.size, size⟩ : Copy) ∈ (wrappingSwrite s buf size).1.copies := by
      unfold wrappingSwrite
      rw [if_pos (by omega)]
      exact List.mem_singleton_self _
    have hinside := (h.2.1 _ hcopy).1
    dsimp only at hinside
    omega

/-- A stream in a run: what is stored has been accepted and not been given, on a circular stream nothing else. -/
structure RunInv (kind : StreamKind) (size : Nat) (x : StreamRun) : Prop where
  size_eq : x.stream.size = size
  holds : ∃ log, Holds x.stream log ∧ (kind = .circular → x.given ++ log = x.accepted)

theorem RunInv.step {x : StreamRun} (h : RunInv kind size x) (hok : op.Ok kind size) : RunInv kind size (x.step kind op) := by
  obtain ⟨hsize, log, hlog, hfifo⟩ := h
  cases op with
  | read n =>
    obtain ⟨hbytes, -, hholds, ⟨hsame, -⟩, -⟩ := hlog.sread n
    refine ⟨hsame.trans hsize, log.drop n, hholds, fun hkind => ?_⟩
    show x.given ++ (stringStreamSread x.stream n).1.bytes ++ log.drop n = x.accepted
    rw [hbytes, List.append_assoc, List.take_append_drop, hfifo hkind]
  | write buf n =>
    cases kind with
    | circular =>
      obtain ⟨hwritten, -, hholds, hsame, -, -⟩ := hlog.circular buf 0 n n (Nat.le_of_eq (Nat.zero_add _))
      refine ⟨hsame.trans hsize, _, hholds, fun hkind => ?_⟩
      show x.given ++ (log ++ _) = x.accepted ++ bytesAt buf 0 (circularSwrite x.stream buf 0 n).1.written
      rw [hwritten, ← List.append_assoc, hfifo hkind]
    | wrapping =>
      obtain ⟨-, -, hholds, hsame, -, -⟩ := hlog.wrapping buf (hsize.symm ▸ hok rfl)
      exact ⟨hsame.trans hsize, _, hholds, nofun⟩

theorem runInv (hpos : 0 < size) (hok : ∀ op ∈ ops, op.Ok kind size) : RunInv kind size (streamRun kind data size ops) := by
  induction ops using List.reverseRecOn with
  | nil => exact ⟨rfl, [], holds_create data hpos, fun _ => rfl⟩
  | append_singleton ops op ih =>
    have hlast : streamRun kind data size (ops ++ [op]) = (streamRun kind data size ops).step kind op := by
      unfold streamRun
      rw [List.foldl_append]
      rfl
    rw [hlast]
    exact (ih fun o ho => hok o (List.mem_append_left _ ho)).step (hok op (List.mem_append_right _ (List.mem_singleton_self op)))

theorem StreamLaw.ok (h : StreamLaw kind data size ops) (hpos : 0 < size) {before after : List StreamOp}
    (hops : ops = before ++ after) : ∀ op ∈ before, op.Ok kind size := by
  induction before using List.reverseRecOn generalizing after with
  | nil => exact nofun
  | append_singleton before op ih =>
    have hsplit : ops = before ++ op :: after := by rw [hops, List.append_assoc, List.singleton_append]
    have hbefore := ih hsplit
    have hsame := (@runInv size kind data before hpos hbefore).size_eq
    have hop := ok_of_opLaw (h.each before op after hsplit)
    rw [hsame] at hop
    intro o ho
    rcases List.mem_append.1 ho with ho | ho
    · exact hbefore o ho
    · exact List.mem_singleton.1 ho ▸ hop

/-- A stream keeps the law in exactly the runs that meet the condition. -/
theorem streamLaw_iff (kind : StreamKind) (data : Memory) {size : Nat} (hsize : 0 < size) (ops : List StreamOp) :
    StreamLaw kind data size ops ↔ StreamOk kind size ops := by
  have hops : StreamOk kind size ops ↔ ∀ op ∈ ops, op.Ok kind size := by
    constructor
    · rintro h (n | ⟨buf, n⟩) hop
      · exact trivial
      · exact fun hkind => h hkind buf n hop
    · exact fun h hkind buf n hop => h _ hop hkind
  rw [hops]
  constructor
  · exact fun h => h.ok hsize (List.append_nil ops).symm
  · intro h
    refine ⟨?_, fun hkind => ?_⟩
    · rintro before op after rfl
      obtain ⟨hsame, log, hlog, -⟩ := @runInv size kind data before hsize fun o ho => h o (List.mem_append_left _ ho)
      exact hlog.opLaw (hsame.symm ▸ h op (List.mem_append_right _ List.mem_cons_self))
    · obtain ⟨-, log, hlog, hfifo⟩ := @runInv size kind data ops hsize h
      rw [hlog.content_eq]
      exact hfifo hkind

end

theorem streamLaw_four : 0 < 4 ∧ (StreamLaw .wrapping (fun _ => 0) 4 [.write (fun i => BitVec.ofNat 8 i) 3, .read 2, .write (fun _ => 7) 4] ↔
    StreamOk .wrapping 4 [.write (fun i => BitVec.ofNat 8 i) 3, .read 2, .write (fun _ => 7) 4]) :=
  ⟨by decide, streamLaw_iff .wrapping (fun _ => 0) (by decide) _⟩

/-- Two bytes are copied to a buffer of one, from the second byte on of a caller that has two. -/
theorem whole_overruns : ¬StreamLaw .wrapping (fun _ => 0) 1 [.write (fun _ => 7) 2] := by
  intro h
  have hinside := (h.each [] _ [] rfl).2.1 ⟨0, 1, 2⟩ (List.mem_singleton_self _)
  exact absurd hinside.1 (by decide)

end Occ.Ppc405
