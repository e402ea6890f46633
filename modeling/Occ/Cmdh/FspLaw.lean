/-
What the command handler takes in and what it hands out: which lengths keep the reading of a command in its buffer and
let a command through only with its whole checksum, and that every final response is whole.
-/
import Occ.Cmdh.Fsp
import Occ.Lib.Literals

namespace Occ.Cmdh

open Function (update)

attribute [local instance] lawfulBEq_byte

/-! ## Words in buffers -/

section Words

variable {m m' : Buf} {i j : Nat} {x : BitVec 16}

theorem word_congr (h : m i = m' i) (h' : m (i + 1) = m' (i + 1)) : word m i = word m' i := by
  unfold word
  rw [h, h']

theorem high_append_low (x : BitVec 16) : x.extractLsb' 8 8 ++ x.extractLsb' 0 8 = x := by
  apply BitVec.eq_of_getLsbD_eq
  intro k hk
  rw [BitVec.getLsbD_append, BitVec.getLsbD_extractLsb', BitVec.getLsbD_extractLsb']
  by_cases hlow : k < 8
  · simp [hlow]
  · have hk' : k - 8 < 8 := by omega
    have heq : 8 + (k - 8) = k := by omega
    simp [hlow, hk', heq]

@[simp] theorem word_putWord : word (putWord m i x) i = x := by
  unfold word putWord
  rw [Function.update_of_ne (by omega), Function.update_self, Function.update_self]
  exact high_append_low x

theorem putWord_of_ne (h : j ≠ i) (h' : j ≠ i + 1) : putWord m i x j = m j := by
  unfold putWord
  rw [Function.update_of_ne h', Function.update_of_ne h]

theorem word_toNat : (word m i).toNat = (m i).toNat * 256 + (m (i + 1)).toNat := by
  unfold word
  have hlow := (m (i + 1)).isLt
  rw [BitVec.toNat_append, Nat.shiftLeft_eq, Nat.mul_comm, ← Nat.two_pow_add_eq_or_of_lt hlow, Nat.mul_comm]

end Words

/-! ## Intake -/

/-- A command goes to its handler only whole and with its checksum, and is read inside its buffer. -/
structure IntakeLaw (cmd : Buf) (r : Result) : Prop where
  fits : r.dispatched = true →
    cmdhFspSeqCmdSize + cmdhFspDatalenSize + (Cmd.dataLen cmd).toNat + cmdhFspChecksumSize ≤ cmdhFspCmdSize
  cksm : r.dispatched = true → word cmd (4 + (Cmd.dataLen cmd).toNat) = checksum16 cmd (4 + (Cmd.dataLen cmd).toNat)
  inside : ∀ a ∈ r.reads, a < cmdhFspCmdSize

/-- The command is read: the attention is valid, and a command of the host has come from main memory. -/
def Inputs.arrives (x : Inputs) : Bool :=
  x.valid && (decide (x.senderId ≠ attnSenderIdHtmgt) || (x.bceOk 1 && x.bceOk 2 && x.bceOk 3 && x.bceOk 4))

/-- A length that leaves room for the checksum, or one of the four that wrap around to a length below the header, with
the exception of two headers that the first bytes happen to be the checksum of. -/
def Cmd.LenOk (cmd : Buf) : Prop :=
  (Cmd.dataLen cmd).toNat ≤ 4090 ∨
    (65532 ≤ (Cmd.dataLen cmd).toNat ∧
      ¬((Cmd.dataLen cmd).toNat = 65532 ∧ Cmd.seq cmd = 0 ∧ Cmd.cmdType cmd = 0) ∧
      ¬((Cmd.dataLen cmd).toNat = 65533 ∧ Cmd.seq cmd = 0xFF ∧ Cmd.cmdType cmd = 0))

section Intake

variable {cmd : Buf}

theorem lengthWith_toNat (dataLen : BitVec 16) (header : Nat) :
    (lengthWith dataLen header).toNat = (dataLen.toNat + (header + 2)) % 65536 := by
  simp only [lengthWith, cmdhFspDatalenSize, BitVec.toNat_add, BitVec.toNat_ofNat]
  omega

theorem cmdLen_cases :
    (Cmd.dataLen cmd).toNat ≤ 4092 ∧ Cmd.cmdLen cmd = (Cmd.dataLen cmd).toNat + 4 ∨
      4092 < (Cmd.dataLen cmd).toNat ∧ (Cmd.dataLen cmd).toNat < 65532 ∧ Cmd.cmdLen cmd = 4096 ∨
      65532 ≤ (Cmd.dataLen cmd).toNat ∧ Cmd.cmdLen cmd = (Cmd.dataLen cmd).toNat - 65532 := by
  have hlt := (Cmd.dataLen cmd).isLt
  have hlen := lengthWith_toNat (Cmd.dataLen cmd) cmdhFspSeqCmdSize
  by_cases hbig : cmdhFspCmdSize < (lengthWith (Cmd.dataLen cmd) cmdhFspSeqCmdSize).toNat
  · have hcmd : Cmd.cmdLen cmd = 4096 := if_pos hbig
    simp only [cmdhFspCmdSize, cmdhFspSeqCmdSize] at hlen hbig
    omega
  · have hcmd : Cmd.cmdLen cmd = (lengthWith (Cmd.dataLen cmd) cmdhFspSeqCmdSize).toNat := if_neg hbig
    simp only [cmdhFspCmdSize, cmdhFspSeqCmdSize] at hcmd hlen hbig
    omega

theorem mem_reads {a : Nat} : a ∈ Cmd.reads cmd ↔ a < 4 ∨ a < Cmd.cmdLen cmd ∨ a = Cmd.cmdLen cmd ∨ a = Cmd.cmdLen cmd + 1 := by
  simp only [Cmd.reads, List.mem_append, List.mem_cons, List.mem_range, List.not_mem_nil, or_false]
  omega

/-- The wrapped lengths: what makes the comparison true. -/
theorem verified_wrapped (hlen : 65532 ≤ (Cmd.dataLen cmd).toNat) : Cmd.verified cmd = true ↔
    ((Cmd.dataLen cmd).toNat = 65532 ∧ Cmd.seq cmd = 0 ∧ Cmd.cmdType cmd = 0) ∨
      ((Cmd.dataLen cmd).toNat = 65533 ∧ Cmd.seq cmd = 0xFF ∧ Cmd.cmdType cmd = 0) := by
  have hlt := (Cmd.dataLen cmd).isLt
  have hbytes : (Cmd.dataLen cmd).toNat = (cmd 2).toNat * 256 + (cmd 3).toNat := word_toNat
  have h0 := (cmd 0).isLt
  have h1 := (cmd 1).isLt
  have h2 := (cmd 2).isLt
  have h3 := (cmd 3).isLt
  have h4 := (cmd 4).isLt
  have hcmd : Cmd.cmdLen cmd = (Cmd.dataLen cmd).toNat - 65532 := by
    rcases @cmdLen_cases cmd with h | h | h
    · omega
    · omega
    · exact h.2
  have hcases : (Cmd.dataLen cmd).toNat = 65532 ∨ (Cmd.dataLen cmd).toNat = 65533 ∨ (Cmd.dataLen cmd).toNat = 65534 ∨
      (Cmd.dataLen cmd).toNat = 65535 := by omega
  have hsum0 : (checksum16 cmd 0).toNat = 0 := rfl
  have hsum1 : (checksum16 cmd 1).toNat = (cmd 0).toNat := by
    simp only [checksum16, Checksum.sum, BitVec.toNat_add, BitVec.toNat_setWidth]
    have hzero : (0 : BitVec 16).toNat = 0 := rfl
    omega
  have hsum2 : (checksum16 cmd 2).toNat ≤ 255 * 2 := Checksum.toNat_sum_le (by decide)
  have hsum3 : (checksum16 cmd 3).toNat ≤ 255 * 3 := Checksum.toNat_sum_le (by decide)
  have hseq : Cmd.seq cmd = 0 ↔ (cmd 0).toNat = 0 := BitVec.toNat_inj.symm
  have hseq' : Cmd.seq cmd = 0xFF ↔ (cmd 0).toNat = 255 := BitVec.toNat_inj.symm
  have htype : Cmd.cmdType cmd = 0 ↔ (cmd 1).toNat = 0 := BitVec.toNat_inj.symm
  have hword0 : (word cmd 0).toNat = (cmd 0).toNat * 256 + (cmd 1).toNat := word_toNat
  have hword1 : (word cmd 1).toNat = (cmd 1).toNat * 256 + (cmd 2).toNat := word_toNat
  have hword3 : (word cmd 3).toNat = (cmd 3).toNat * 256 + (cmd 4).toNat := word_toNat
  have hword2 : (word cmd 2).toNat = (Cmd.dataLen cmd).toNat := rfl
  rw [hseq, hseq', htype, Cmd.verified, decide_eq_true_eq, ← BitVec.toNat_inj, hcmd]
  rcases hcases with h | h | h | h <;>
    simp only [h, Nat.reduceSub, Nat.reduceEqDiff, true_and, false_and, or_false, false_or]
  · rw [hsum0, hword0]
    omega
  · rw [hsum1, hword1]
    omega
  · refine iff_of_false (fun heq => ?_) id
    rw [hword2] at heq
    omega
  · refine iff_of_false (fun heq => ?_) id
    rw [hword3] at heq
    omega

theorem hndler_arrives (handlers : Handlers) (x : Inputs) (s : State) (h : x.arrives = true) :
    (cmdhFspCmdHndler handlers x s).reads = Cmd.reads (x.cmd s) ∧
      (cmdhFspCmdHndler handlers x s).dispatched = Cmd.verified (x.cmd s) := by
  simp only [Inputs.arrives, Bool.and_eq_true, Bool.or_eq_true, decide_eq_true_eq] at h
  obtain ⟨hvalid, hcopied⟩ := h
  unfold cmdhFspCmdHndler Inputs.cmd
  simp only [hvalid, Bool.not_true, Bool.false_eq_true, if_false]
  by_cases hhost : x.senderId = attnSenderIdHtmgt
  · obtain ⟨⟨⟨h1, h2⟩, h3⟩, h4⟩ := hcopied.resolve_left (fun hne => hne hhost)
    simp only [hhost, if_true, htmgtCmdHndler, h1, h2, h3, h4, Bool.and_self, Bool.not_true, Bool.false_eq_true, if_false]
    split <;> exact ⟨rfl, rfl⟩
  · simp only [if_neg hhost]
    exact ⟨rfl, rfl⟩

/-- A command that does not arrive is not looked at behind its header. -/
theorem hndler_not_arrives (handlers : Handlers) (x : Inputs) (s : State) (h : ¬x.arrives = true) :
    (∀ a ∈ (cmdhFspCmdHndler handlers x s).reads, a < 2) ∧ (cmdhFspCmdHndler handlers x s).dispatched = false := by
  unfold cmdhFspCmdHndler
  by_cases hvalid : x.valid = true
  · simp only [hvalid, Bool.not_true, Bool.false_eq_true, if_false]
    simp only [Inputs.arrives, hvalid, Bool.true_and, Bool.or_eq_true, decide_eq_true_eq, not_or, not_not] at h
    obtain ⟨hhost, hcopy⟩ := h
    simp only [if_pos hhost, htmgtCmdHndler]
    by_cases hread : (x.bceOk 1 && x.bceOk 2) = true
    · have hwrite : (x.bceOk 3 && x.bceOk 4) = false := by
        simp only [Bool.and_eq_true] at hread hcopy
        rw [Bool.and_eq_false_iff]
        by_contra hboth
        simp only [not_or, Bool.not_eq_false] at hboth
        exact hcopy ⟨⟨hread, hboth.1⟩, hboth.2⟩
      simp only [hread, hwrite, Bool.not_true, Bool.not_false, Bool.false_eq_true, if_false, if_true]
      refine ⟨fun a ha => ?_, trivial⟩
      simp only [List.mem_cons, List.not_mem_nil, or_false] at ha
      omega
    · simp only [hread, Bool.not_false, if_true]
      exact ⟨fun a ha => absurd ha List.not_mem_nil, trivial⟩
  · simp only [hvalid, Bool.not_false, if_true]
    exact ⟨fun a ha => absurd ha List.not_mem_nil, trivial⟩

/-- A command that is read stays in its buffer and is let through rightly for exactly these lengths. -/
theorem intakeLaw_iff (handlers : Handlers) (x : Inputs) (s : State) :
    IntakeLaw (x.cmd s) (cmdhFspCmdHndler handlers x s) ↔ (x.arrives = true → Cmd.LenOk (x.cmd s)) := by
  by_cases harr : x.arrives = true
  · obtain ⟨hreads, hdisp⟩ := hndler_arrives handlers x s harr
    simp only [harr, forall_const]
    generalize x.cmd s = cmd at hreads hdisp ⊢
    constructor
    · intro hlaw
      have hin : Cmd.cmdLen cmd + 1 < 4096 := by
        apply hlaw.inside
        rw [hreads, mem_reads]
        omega
      have hfits := hlaw.fits
      rw [hdisp] at hfits
      simp only [cmdhFspSeqCmdSize, cmdhFspDatalenSize, cmdhFspChecksumSize, cmdhFspCmdSize] at hfits
      rcases @cmdLen_cases cmd with ⟨hle, hlen⟩ | ⟨-, -, hlen⟩ | ⟨hwrap, -⟩
      · exact .inl (by omega)
      · omega
      · have hno : ¬Cmd.verified cmd = true := fun hv => by
          have := hfits hv
          omega
        rw [verified_wrapped hwrap, not_or] at hno
        exact .inr ⟨hwrap, hno.1, hno.2⟩
    · intro hok
      rcases hok with hle | ⟨hwrap, hzero, hone⟩
      · have hlen : Cmd.cmdLen cmd = (Cmd.dataLen cmd).toNat + 4 := by
          rcases @cmdLen_cases cmd with h | h | h <;> omega
        refine ⟨fun _ => ?_, fun hv => ?_, fun a ha => ?_⟩
        · simp only [cmdhFspSeqCmdSize, cmdhFspDatalenSize, cmdhFspChecksumSize, cmdhFspCmdSize]
          omega
        · rw [hdisp, Cmd.verified, decide_eq_true_eq, hlen, Nat.add_comm] at hv
          exact hv.symm
        · rw [hreads, mem_reads, hlen] at ha
          unfold cmdhFspCmdSize
          omega
      · have hno : Cmd.verified cmd = false := by
          rw [← Bool.not_eq_true, verified_wrapped hwrap, not_or]
          exact ⟨hzero, hone⟩
        rw [hno] at hdisp
        refine ⟨fun h => ?_, fun h => ?_, fun a ha => ?_⟩
        · rw [hdisp] at h
          cases h
        · rw [hdisp] at h
          cases h
        · have hlt := (Cmd.dataLen cmd).isLt
          rw [hreads, mem_reads] at ha
          unfold cmdhFspCmdSize
          rcases @cmdLen_cases cmd with h | h | h <;> omega
  · obtain ⟨hreads, hdisp⟩ := hndler_not_arrives handlers x s harr
    refine ⟨fun _ h => absurd h harr, fun _ => ⟨fun h => ?_, fun h => ?_, fun a ha => ?_⟩⟩
    · rw [hdisp] at h
      cases h
    · rw [hdisp] at h
      cases h
    · have := hreads a ha
      unfold cmdhFspCmdSize
      omega

end Intake

/-! ## Examples of intake -/

/-- A buffer that begins with some bytes, and is zero from there on. -/
def bufOf (bs : List (BitVec 8)) : Buf := fun i => bs.getD i 0

/-- A command from the FSP. -/
def fspInputs (bs : List (BitVec 8)) : Inputs where
  senderId := attnSenderIdFsp
  attnType := attnTypeCmdWrite
  fspCmd := bufOf bs
  homerCmd := bufOf []
  bceOk _ := true
  newLogId := 1

def zeroState : State where
  htmgtCmd _ := 0
  fspRsp _ := 0
  htmgtRsp _ := 0
  homerRsp _ := 0
  rspStatus := 0

/-- Handlers that leave one byte of data. -/
def oneByte : Handlers := fun _ _ => ⟨1, fun _ => 7, errlRcSuccess, by decide⟩

/-- A poll command whose length wraps around goes to its handler, and a command of 4092 bytes of data has its checksum read
behind the buffer. -/
theorem intakeLaw_fails :
    ((cmdhFspCmdHndler oneByte (fspInputs [0, 0, 0xFF, 0xFC]) zeroState).dispatched = true ∧
        ¬IntakeLaw ((fspInputs [0, 0, 0xFF, 0xFC]).cmd zeroState)
          (cmdhFspCmdHndler oneByte (fspInputs [0, 0, 0xFF, 0xFC]) zeroState)) ∧
      4097 ∈ (cmdhFspCmdHndler oneByte (fspInputs [0, 0, 0x0F, 0xFC]) zeroState).reads ∧
        ¬IntakeLaw ((fspInputs [0, 0, 0x0F, 0xFC]).cmd zeroState)
          (cmdhFspCmdHndler oneByte (fspInputs [0, 0, 0x0F, 0xFC]) zeroState) := by
  have hwrap : (cmdhFspCmdHndler oneByte (fspInputs [0, 0, 0xFF, 0xFC]) zeroState).dispatched = true := by decide
  have hreads : 4097 ∈ (cmdhFspCmdHndler oneByte (fspInputs [0, 0, 0x0F, 0xFC]) zeroState).reads := by
    rw [(hndler_arrives oneByte _ zeroState (by decide)).1, mem_reads]
    exact .inr (.inr (.inr (by decide)))
  refine ⟨⟨hwrap, fun hlaw => ?_⟩, hreads, fun hlaw => ?_⟩
  · exact absurd (hlaw.fits hwrap) (by decide)
  · exact absurd (hlaw.inside 4097 hreads) (by decide)

/-! ## Responses -/

/-- What becomes of a command, before its response is made. -/
structure Outcome where
  dataLength : Nat
  data : Buf
  status : BitVec 8

/-- The handler's outcome, or the id of a log about an unknown command, or no log about a bad checksum. -/
def outcome (handlers : Handlers) (newLogId : BitVec 8) (cmd : Buf) : Outcome :=
  if Cmd.verified cmd then
    if Cmd.cmdType cmd ∈ commands then
      let h := handlers (Cmd.cmdType cmd) cmd
      ⟨h.dataLength, h.data, h.status⟩
    else ⟨1, fun _ => newLogId, errlRcInvalidCmd⟩
  else ⟨1, fun _ => 0, errlRcChecksumFail⟩

/-- A final response: the command's sequence number and type, the outcome's status and data with their number, room for
all of it, and the checksum of the header and the data as they are now. -/
structure RspLaw (cmd rsp : Buf) (o : Outcome) : Prop where
  seq : rsp 0 = Cmd.seq cmd
  cmdType : rsp 1 = Cmd.cmdType cmd
  rc : rsp 2 = o.status
  dataLength : (word rsp 3).toNat = o.dataLength
  data : ∀ k < o.dataLength, rsp (5 + k) = o.data k
  fits : 5 + o.dataLength + cmdhFspChecksumSize ≤ cmdhFspRspSize
  cksm : word rsp (5 + o.dataLength) = checksum16 rsp (5 + o.dataLength)

/-- A response in the making: its status is still that of a command in progress, and it has no checksum. -/
structure Filled (cmd rsp : Buf) (o : Outcome) : Prop where
  seq : rsp 0 = Cmd.seq cmd
  cmdType : rsp 1 = Cmd.cmdType cmd
  rc : rsp 2 = errlRcCmdInProgress
  dataLength : word rsp 3 = BitVec.ofNat 16 o.dataLength
  data : ∀ k < o.dataLength, rsp (5 + k) = o.data k
  fits : o.dataLength ≤ rspDataMax

section Responses

variable {handlers : Handlers} {newLogId : BitVec 8} {cmd rsp : Buf} {o : Outcome} {a : Nat}

theorem setDataLength_of_ne (n : BitVec 16) (h : a ≠ 3) (h' : a ≠ 4) : setDataLength rsp n a = rsp a :=
  putWord_of_ne h h'

theorem putData_data {k : Nat} (data : Buf) (h : k < rspDataMax) : putData rsp data (5 + k) = data k := by
  have hin : 5 ≤ 5 + k ∧ 5 + k < cmdhFspRspSize := ⟨by omega, by
    simp only [rspDataMax, cmdhFspRspSize, cmdhFspSeqCmdRcSize, cmdhFspDatalenSize, cmdhFspChecksumSize] at h ⊢
    omega⟩
  unfold putData
  rw [if_pos hin, Nat.add_sub_cancel_left]

theorem one_le_rspDataMax : 1 ≤ rspDataMax := by decide

theorem filled_one {status : BitVec 8} (b : BitVec 8) (n : BitVec 16) :
    Filled cmd (setDataLength (update (setDataLength (startRsp cmd rsp) n) 5 b) 1) ⟨1, fun _ => b, status⟩ where
  seq := rfl
  cmdType := rfl
  rc := rfl
  dataLength := word_putWord
  data k hk := by
    obtain rfl : k = 0 := Nat.lt_one_iff.1 hk
    rw [setDataLength_of_ne _ (by decide) (by decide)]
    exact Function.update_self ..
  fits := one_le_rspDataMax

theorem runCmd_filled :
    Filled cmd (runCmd handlers newLogId cmd (startRsp cmd rsp)).1 (outcome handlers newLogId cmd) ∧
      (runCmd handlers newLogId cmd (startRsp cmd rsp)).2 = (outcome handlers newLogId cmd).status := by
  unfold runCmd outcome
  by_cases hv : Cmd.verified cmd = true
  · simp only [if_pos hv, processTmgtRequest]
    by_cases hmem : Cmd.cmdType cmd ∈ commands
    · simp only [if_pos hmem]
      refine ⟨⟨rfl, rfl, rfl, word_putWord, fun k hk => ?_, (handlers _ cmd).fits⟩, trivial⟩
      rw [setDataLength_of_ne _ (by omega) (by omega)]
      exact putData_data _ (Nat.lt_of_lt_of_le hk (handlers _ cmd).fits)
    · simp only [if_neg hmem]
      exact ⟨filled_one newLogId 0, rfl⟩
  · simp only [if_neg hv]
    refine ⟨⟨rfl, rfl, rfl, ?_, fun k hk => ?_, one_le_rspDataMax⟩, trivial⟩
    · refine (word_congr ?_ ?_).trans (word_putWord (m := startRsp cmd rsp))
      · exact Function.update_of_ne (by decide) ..
      · exact Function.update_of_ne (by decide) ..
    · obtain rfl : k = 0 := Nat.lt_one_iff.1 hk
      exact Function.update_self ..

/-- The last part of a response makes it whole. -/
theorem Filled.finish (h : Filled cmd rsp o) : RspLaw cmd (finishRsp rsp o.status) o := by
  have hmax : o.dataLength ≤ 4089 := h.fits
  have hlen : (lengthWith (word rsp 3) cmdhFspSeqCmdRcSize).toNat = 5 + o.dataLength := by
    rw [lengthWith_toNat, h.dataLength, BitVec.toNat_ofNat]
    simp only [cmdhFspSeqCmdRcSize]
    omega
  obtain ⟨cksm, hcksm⟩ : ∃ cksm, cksm = checksum16 rsp (5 + o.dataLength) +
    (o.status.setWidth 16 - errlRcCmdInProgress.setWidth 16) := ⟨_, rfl⟩
  have hfinish : finishRsp rsp o.status = update (putWord rsp (5 + o.dataLength) cksm) 2 o.status := by
    simp only [finishRsp, hlen, hcksm]
  have hkept : ∀ a < 5 + o.dataLength, putWord rsp (5 + o.dataLength) cksm a = rsp a :=
    fun a ha => putWord_of_ne (by omega) (by omega)
  have hother : ∀ a < 5 + o.dataLength, a ≠ 2 → finishRsp rsp o.status a = rsp a := by
    intro a ha hne
    rw [hfinish, Function.update_of_ne hne, hkept a ha]
  refine ⟨?_, ?_, ?_, ?_, fun k hk => ?_, ?_, ?_⟩
  · rw [hother 0 (by omega) (by decide), h.seq]
  · rw [hother 1 (by omega) (by decide), h.cmdType]
  · rw [hfinish, Function.update_self]
  · rw [word_congr (hother 3 (by omega) (by decide)) (hother 4 (by omega) (by decide)), h.dataLength, BitVec.toNat_ofNat]
    omega
  · rw [hother (5 + k) (by omega) (by omega), h.data k hk]
  · simp only [cmdhFspChecksumSize, cmdhFspRspSize]
    omega
  · have hsum : checksum16 (finishRsp rsp o.status) (5 + o.dataLength) = cksm := by
      unfold checksum16 at hcksm ⊢
      rw [hfinish, Checksum.sum_update _ (by omega), Checksum.sum_congr hkept, hkept 2 (by omega), h.rc, hcksm]
    rw [hsum, hfinish]
    refine (word_congr ?_ ?_).trans (word_putWord (m := rsp))
    · exact Function.update_of_ne (by omega) ..
    · exact Function.update_of_ne (by omega) ..

theorem RspLaw.copy {dst : Buf} (h : RspLaw cmd rsp o) : RspLaw cmd (copyBuf rsp dst) o := by
  have hfits := h.fits
  simp only [cmdhFspChecksumSize, cmdhFspRspSize] at hfits
  have hsame : ∀ a < 4096, copyBuf rsp dst a = rsp a := fun a ha => if_pos ha
  refine ⟨?_, ?_, ?_, ?_, fun k hk => ?_, h.fits, ?_⟩
  · rw [hsame 0 (by decide), h.seq]
  · rw [hsame 1 (by decide), h.cmdType]
  · rw [hsame 2 (by decide), h.rc]
  · rw [word_congr (hsame 3 (by decide)) (hsame 4 (by decide)), h.dataLength]
  · rw [hsame (5 + k) (by omega), h.data k hk]
  · rw [word_congr (hsame _ (by omega)) (hsame _ (by omega)), h.cksm]
    unfold checksum16
    exact Checksum.sum_congr fun a ha => (hsame a (by omega)).symm

theorem finishRsp_law : RspLaw cmd (finishRsp (runCmd handlers newLogId cmd (startRsp cmd rsp)).1
    (runCmd handlers newLogId cmd (startRsp cmd rsp)).2) (outcome handlers newLogId cmd) := by
  obtain ⟨hfilled, hstatus⟩ := @runCmd_filled handlers newLogId cmd rsp
  rw [hstatus]
  exact hfilled.finish

end Responses

/-- Every final response is whole. -/
theorem rspLaw_of_handed (handlers : Handlers) (x : Inputs) (s : State) {rsp : Buf}
    (h : (cmdhFspCmdHndler handlers x s).handed = some rsp) :
    RspLaw (x.cmd s) rsp (outcome handlers x.newLogId (x.cmd s)) := by
  unfold cmdhFspCmdHndler at h
  unfold Inputs.cmd
  split at h
  · cases h
  split at h
  · rename_i hhost
    rw [if_pos hhost]
    unfold htmgtCmdHndler at h
    dsimp only at h
    split at h
    · cases h
    split at h
    · cases h
    split at h
    · cases h
    · cases h
      exact finishRsp_law.copy
  · rename_i hhost
    rw [if_neg hhost]
    cases h
    exact finishRsp_law

/-- A poll command without data, whose checksum is zero. -/
theorem rspLaw_of_handed_poll : ∃ rsp, (cmdhFspCmdHndler oneByte (fspInputs []) zeroState).handed = some rsp ∧
    rsp 5 = 7 ∧ RspLaw ((fspInputs []).cmd zeroState) rsp (outcome oneByte 1 ((fspInputs []).cmd zeroState)) :=
  ⟨_, rfl, by decide, rspLaw_of_handed oneByte (fspInputs []) zeroState rfl⟩

end Occ.Cmdh
