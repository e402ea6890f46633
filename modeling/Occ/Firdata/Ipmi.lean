/-
The mailbox message wrapped in an IPMI message (`firdata/ipmidd.C`, `firdata/mboxOverIpmi.C`): it is sent over the BT
interface once that is idle, and the interface is polled for the response.
-/
import Occ.Lib.Loops
import Mathlib.Data.BitVec

namespace Occ.Firdata

open Retry

/-- An access to the LPC I/O space. -/
inductive LpcAccess
  | read (addr : Nat)
  | write (addr : Nat) (data : BitVec 8)
deriving DecidableEq, Repr

/-- The address of an access. -/
def LpcAccess.addr : LpcAccess → Nat
  | .read addr => addr
  | .write addr _ => addr

/-- Accesses up to the first that fails, where access `k` returns `rc k`: the error, or 0, and what was done. -/
def lpcAccesses (rc : Nat → Int) : List LpcAccess → Int × List LpcAccess
  | [] => (0, [])
  | a :: rest =>
    if rc 0 ≠ 0 then (rc 0, [a])
    else ((lpcAccesses (fun k => rc (k + 1)) rest).1, a :: (lpcAccesses (fun k => rc (k + 1)) rest).2)

/-- The bytes of an `mboxMessage_t`: the command, the sequence number, eleven arguments and the response. -/
abbrev MboxMessage := Nat → BitVec 8

namespace MboxMessage

def cmd (m : MboxMessage) : BitVec 8 := m 0
def seq (m : MboxMessage) : BitVec 8 := m 1
def arg (m : MboxMessage) (i : Nat) : BitVec 8 := m (2 + i)
def resp (m : MboxMessage) : BitVec 8 := m 13

def set (m : MboxMessage) (i : Nat) (b : BitVec 8) : MboxMessage := fun j => if j = i then b else m j

end MboxMessage

/-- `sizeof(mboxMessage_t)` -/
def mboxMessageSize : Nat := 14

def mboxCGetMboxInfo : BitVec 8 := 0x02

/-! ## The device driver -/

def netfunIbm : BitVec 8 := 0xe8
def pnorCmd : BitVec 8 := 0x5a
def ccOk : BitVec 8 := 0x00
def ccUnkbad : BitVec 8 := 0xff

def regControl : Nat := 0xE4
def regHostbmc : Nat := 0xE5
def regIntmask : Nat := 0xE6

def ctrlHBusy : BitVec 8 := 0x40
def ctrlSmsAtn : BitVec 8 := 0x10
def ctrlB2hAtn : BitVec 8 := 0x08
def ctrlH2bAtn : BitVec 8 := 0x04
def ctrlClrRdPtr : BitVec 8 := 0x02
def ctrlClrWrPtr : BitVec 8 := 0x01
def idleState : BitVec 8 := 0x8C
def intBmcHwrst : BitVec 8 := 0x80

def maxPacketDataSize : Nat := 16

def rcIpmiddIdle : Int := 10
def rcIpmiddNotIdle : Int := 11
def rcIpmiddTimeout : Int := 12
def rcBadSequence : Int := 13
def rcIpmiddInvalidRespSize : Int := 14
def rcIpmiEvent : Int := 15
def rcIpmiBusy : Int := 16

structure IpmiDD where
  netfun : BitVec 8
  seq : BitVec 8
  cmd : BitVec 8
  cc : BitVec 8
  data : Nat → BitVec 8
  dataLen : BitVec 8

/-- What one call of `send` meets: the read of the control register, and the error of each write. -/
structure SendTry where
  ctrlRc : Int
  ctrl : BitVec 8
  writeRc : Nat → Int

/-- What one call of `pollCtrl` meets: the read of the control register, the error and the byte of each access of
`receive`, and the error of the write that clears an event. -/
structure Poll where
  ctrlRc : Int
  ctrl : BitVec 8
  rc : Nat → Int
  byte : Nat → BitVec 8
  clearRc : Int

/-- The constructor -/
def IpmiDD.new (netfun cmd seq cc : BitVec 8) (data : Nat → BitVec 8) (dataLen : BitVec 8) : IpmiDD where
  netfun := netfun
  seq := seq
  cmd := cmd
  cc := cc
  data := data
  dataLen := if maxPacketDataSize < dataLen.toNat then BitVec.ofNat 8 maxPacketDataSize else dataLen

/-- The writes of `send` -/
def IpmiDD.sendWrites (dd : IpmiDD) : List LpcAccess :=
  [.write regControl ctrlClrWrPtr, .write regHostbmc (BitVec.ofNat 8 (dd.dataLen.toNat + 3)),
    .write regHostbmc dd.netfun, .write regHostbmc dd.seq, .write regHostbmc dd.cmd] ++
  (List.range dd.dataLen.toNat).map (fun i => .write regHostbmc (dd.data i)) ++ [.write regControl ctrlH2bAtn]

/-- `send`: its result and its accesses; an error resets the interface. -/
def send (t : SendTry) (dd : IpmiDD) : Int × List LpcAccess :=
  let reset : LpcAccess := .write regIntmask intBmcHwrst
  if t.ctrlRc ≠ 0 then (t.ctrlRc, [.read regControl, reset])
  else if t.ctrl &&& idleState ≠ 0 then (rcIpmiddNotIdle, [.read regControl])
  else
    let w := lpcAccesses t.writeRc dd.sendWrites
    (w.1, .read regControl :: w.2 ++ if w.1 ≠ 0 then [reset] else [])

/-- `l_len`: the bytes of data that `receive` reads. -/
def Poll.len (p : Poll) : Int :=
  if (maxPacketDataSize : Int) < (p.byte 4).toNat - 4 then maxPacketDataSize else (p.byte 4).toNat - 4

/-- The accesses of `receive`, but for the one that clears the busy state. -/
def Poll.receiveAccesses (p : Poll) : List LpcAccess :=
  [.read regControl, .write regControl ctrlHBusy, .write regControl ctrlB2hAtn, .write regControl ctrlClrRdPtr,
    .read regHostbmc, .read regHostbmc, .read regHostbmc, .read regHostbmc, .read regHostbmc] ++
  List.replicate p.len.toNat (.read regHostbmc)

/-- `receive`: its result, what it leaves in the object and its accesses. -/
def receive (p : Poll) (dd : IpmiDD) : Int × IpmiDD × List LpcAccess :=
  let r := lpcAccesses p.rc p.receiveAccesses
  -- the accesses that succeeded
  let done := if r.1 = 0 then r.2.length else r.2.length - 1
  let dd : IpmiDD := {
    dataLen := if 4 < done then BitVec.ofInt 8 p.len else dd.dataLen
    netfun := if 5 < done then p.byte 5 else dd.netfun
    seq := if 6 < done then p.byte 6 else dd.seq
    cmd := if 7 < done then p.byte 7 else dd.cmd
    cc := if 8 < done then p.byte 8 else dd.cc
    data := fun i => if 9 + i < done then p.byte (9 + i) else dd.data i }
  (r.1, dd, r.2 ++ if 1 < done then [.write regControl ctrlHBusy] else [])

/-- `pollCtrl` -/
def pollCtrl (p : Poll) (dd : IpmiDD) : Int × IpmiDD × List LpcAccess :=
  if p.ctrlRc ≠ 0 then (p.ctrlRc, dd, [.read regControl])
  else if p.ctrl &&& idleState = 0 then (rcIpmiddIdle, dd, [.read regControl])
  else if p.ctrl &&& ctrlB2hAtn ≠ 0 then
    let r := receive p dd
    (r.1, r.2.1, .read regControl :: r.2.2)
  else if p.ctrl &&& ctrlSmsAtn ≠ 0 then
    let r := receive p dd
    (rcIpmiEvent, r.2.1, .read regControl :: r.2.2 ++ [.write regControl ctrlSmsAtn])
  else (rcIpmiBusy, dd, [.read regControl])

/-! ## A message -/

def ipmiMaxTries : Nat := 10000

/-- What the IPMI path meets, by the number of the try. -/
structure IpmiPath where
  sends : Nat → SendTry
  polls : Nat → Poll

/-- The polling goes on when there is nothing, when the BMC is busy, and after an event. -/
def keepsWaiting (rc : Int) : Bool := rc == rcIpmiddIdle || rc == rcIpmiEvent || rc == rcIpmiBusy

/-- The workaround for the response to `MBOX_C_GET_MBOX_INFO` -/
def fixGetInfo (orgCmd : BitVec 8) (msg : MboxMessage) : MboxMessage :=
  if orgCmd = mboxCGetMboxInfo ∧ 1 < (msg.arg 0).toNat then
    (((msg.set 7 (msg.arg 1)).set 8 (msg.arg 2)).set 9 (msg.arg 3)).set 10 (msg.arg 4)
  else msg

/-- `ipmi_sendCommand` with `tries` of each kind: its result, the message and the accesses. -/
def ipmiExchange (tries : Nat) (e : IpmiPath) (msg : MboxMessage) (argSize : Int) :
    Int × MboxMessage × List LpcAccess :=
  let dd := IpmiDD.new netfunIbm pnorCmd msg.seq ccUnkbad msg (BitVec.ofInt 8 (argSize + 2))
  match retry (· == rcIpmiddNotIdle) tries
      (fun i (log : List LpcAccess) => ((send (e.sends i) dd).1, log ++ (send (e.sends i) dd).2)) [] with
  | (none, log) => (rcIpmiddTimeout, msg, log)
  | (some rc, log) =>
    if rc ≠ 0 then (rc, msg, log)
    else
      match retry keepsWaiting tries
          (fun i (s : IpmiDD × List LpcAccess) =>
            let r := pollCtrl (e.polls i) s.1
            (r.1, r.2.1, s.2 ++ r.2.2)) (dd, log) with
      | (none, _, log) => (rcIpmiddTimeout, msg, log)
      | (some rc, dd, log) =>
        if rc ≠ 0 then (rc, msg, log)
        else if dd.cc ≠ ccOk then (dd.cc.toNat, msg, log)
        else if mboxMessageSize < dd.dataLen.toNat then (rcIpmiddInvalidRespSize, msg, log)
        else if msg.seq ≠ dd.seq then (rcBadSequence, msg, log)
        else (0, fixGetInfo msg.cmd fun i => if i < dd.dataLen.toNat then dd.data i else msg i, log)

/-- `ipmi_sendCommand` -/
def ipmiSendCommand : IpmiPath → MboxMessage → Int → Int × MboxMessage × List LpcAccess := ipmiExchange ipmiMaxTries

/-! ## A delivered response -/

/-- The poll finds a response that fits into a message, with a completion code of success and the sequence number. -/
structure Poll.Delivers (p : Poll) (seq : BitVec 8) : Prop where
  ctrl : p.ctrlRc = 0 ∧ p.ctrl &&& ctrlB2hAtn ≠ 0
  received : ∀ k, k < 9 + ((p.byte 4).toNat - 4) → p.rc k = 0
  fits : 4 ≤ (p.byte 4).toNat ∧ (p.byte 4).toNat ≤ 4 + mboxMessageSize
  success : p.byte 8 = ccOk
  seq : p.byte 6 = seq

/-- What a try to send returns, and what a poll returns; both are determined by what they meet. -/
def SendTry.result (t : SendTry) (dd : IpmiDD) : Int := (send t dd).1

def Poll.result (p : Poll) : Int := (pollCtrl p (.new 0 0 0 0 (fun _ => 0) 0)).1

/-- The message is sent and its response arrives, each within the tries there are for it. -/
def IpmiPath.DeliversIn (tries : Nat) (e : IpmiPath) (msg : MboxMessage) (argSize : Int) : Prop :=
  ∃ i j, Settled (· == rcIpmiddNotIdle) tries
      (fun i => (e.sends i).result (.new netfunIbm pnorCmd msg.seq ccUnkbad msg (BitVec.ofInt 8 (argSize + 2)))) i ∧
    (e.sends i).result (.new netfunIbm pnorCmd msg.seq ccUnkbad msg (BitVec.ofInt 8 (argSize + 2))) = 0 ∧
    Settled keepsWaiting tries (fun j => (e.polls j).result) j ∧ (e.polls j).Delivers msg.seq

def IpmiPath.Delivers (e : IpmiPath) (msg : MboxMessage) (argSize : Int) : Prop := e.DeliversIn ipmiMaxTries msg argSize

section

variable {rc : Nat → Int} {as : List LpcAccess} {p : Poll} {dd dd' : IpmiDD} {e : IpmiPath} {msg : MboxMessage}
  {argSize : Int} {sq : BitVec 8}

theorem lpcAccesses_eq_zero : (lpcAccesses rc as).1 = 0 ↔ ∀ k, k < as.length → rc k = 0 := by
  induction as generalizing rc with
  | nil => exact ⟨fun _ k hk => absurd hk (Nat.not_lt_zero k), fun _ => rfl⟩
  | cons a rest ih =>
    unfold lpcAccesses
    by_cases h0 : rc 0 = 0
    · rw [if_neg (not_not.2 h0)]
      simp only [ih]
      constructor
      · intro h k hk
        cases k with
        | zero => exact h0
        | succ k => exact h k (by simpa using hk)
      · intro h k hk
        exact h (k + 1) (by simpa using hk)
    · rw [if_pos h0]
      exact ⟨fun h => absurd h h0, fun h => absurd (h 0 (by simp)) h0⟩

theorem lpcAccesses_all (h : (lpcAccesses rc as).1 = 0) : (lpcAccesses rc as).2 = as := by
  induction as generalizing rc with
  | nil => rfl
  | cons a rest ih =>
    unfold lpcAccesses at h ⊢
    by_cases h0 : rc 0 = 0
    · rw [if_neg (not_not.2 h0)] at h ⊢
      simp only at h ⊢
      rw [ih h]
    · rw [if_pos h0] at h
      exact absurd h h0

theorem pollCtrl_result : (pollCtrl p dd).1 = p.result := by
  unfold Poll.result pollCtrl
  split
  · rfl
  · split
    · rfl
    · split
      · rfl
      · split <;> rfl

theorem receive_ok (h : (lpcAccesses p.rc p.receiveAccesses).1 = 0) :
    (receive p dd).2.1.cc = p.byte 8 ∧ (receive p dd).2.1.seq = p.byte 6 ∧
      (receive p dd).2.1.dataLen = BitVec.ofInt 8 p.len := by
  have hlen : p.receiveAccesses.length = 9 + p.len.toNat := by
    unfold Poll.receiveAccesses
    rw [List.length_append, List.length_replicate]
    rfl
  unfold receive
  simp only [h, lpcAccesses_all h, hlen, if_true]
  exact ⟨if_pos (by omega), if_pos (by omega), if_pos (by omega)⟩

theorem dataLen_le : (BitVec.ofInt 8 p.len).toNat ≤ mboxMessageSize ↔
    4 ≤ (p.byte 4).toNat ∧ (p.byte 4).toNat ≤ 4 + mboxMessageSize := by
  have hlt := (p.byte 4).isLt
  unfold Poll.len maxPacketDataSize mboxMessageSize
  rw [BitVec.toNat_ofInt]
  split <;> omega

theorem received_iff (h : 4 ≤ (p.byte 4).toNat ∧ (p.byte 4).toNat ≤ 4 + mboxMessageSize) :
    (lpcAccesses p.rc p.receiveAccesses).1 = 0 ↔ ∀ k, k < 9 + ((p.byte 4).toNat - 4) → p.rc k = 0 := by
  have hlen : p.receiveAccesses.length = 9 + ((p.byte 4).toNat - 4) := by
    unfold mboxMessageSize at h
    unfold Poll.receiveAccesses Poll.len maxPacketDataSize
    rw [List.length_append, List.length_replicate]
    split
    · omega
    · show 9 + _ = _
      omega
  rw [lpcAccesses_eq_zero, hlen]

theorem b2h_not_idle {c : BitVec 8} (h : c &&& ctrlB2hAtn ≠ 0) : c &&& idleState ≠ 0 := by
  revert c
  decide

/-- A poll ends the wait with a response that is accepted exactly when it delivers one. -/
theorem delivers_iff : p.Delivers sq ↔ p.result = 0 ∧ (pollCtrl p dd).2.1.cc = ccOk ∧
    (pollCtrl p dd).2.1.dataLen.toNat ≤ mboxMessageSize ∧ sq = (pollCtrl p dd).2.1.seq := by
  constructor
  · rintro ⟨⟨hrc, hb2h⟩, hreceived, hfits, hcc, hseq⟩
    have hzero := (received_iff hfits).2 hreceived
    obtain ⟨h8, h6, hlen⟩ := @receive_ok _ dd hzero
    have hpoll : pollCtrl p dd = ((receive p dd).1, (receive p dd).2.1, .read regControl :: (receive p dd).2.2) := by
      unfold pollCtrl
      rw [if_neg (not_not.2 hrc), if_neg (b2h_not_idle hb2h), if_pos hb2h]
    rw [← @pollCtrl_result _ dd, hpoll]
    refine ⟨hzero, by rw [h8, hcc], ?_, by rw [h6, hseq]⟩
    show (receive p dd).2.1.dataLen.toNat ≤ _
    rw [hlen]
    exact dataLen_le.2 hfits
  · rintro ⟨hresult, hcc, hsize, hseq⟩
    rw [← @pollCtrl_result _ dd] at hresult
    unfold pollCtrl at hresult hcc hsize hseq
    by_cases hrc : p.ctrlRc = 0
    · by_cases hidle : p.ctrl &&& idleState = 0
      · rw [if_neg (not_not.2 hrc), if_pos hidle] at hresult
        cases hresult
      · by_cases hb2h : p.ctrl &&& ctrlB2hAtn ≠ 0
        · rw [if_neg (not_not.2 hrc), if_neg hidle, if_pos hb2h] at hresult hcc hsize hseq
          obtain ⟨h8, h6, hlen⟩ := @receive_ok _ dd hresult
          simp only [h8, h6, hlen] at hcc hsize hseq
          have hfits := dataLen_le.1 hsize
          exact ⟨⟨hrc, hb2h⟩, (received_iff hfits).1 hresult, hfits, hcc, hseq.symm⟩
        · rw [if_neg (not_not.2 hrc), if_neg hidle, if_neg hb2h] at hresult
          split at hresult <;> cases hresult
    · rw [if_pos hrc] at hresult
      exact absurd hresult hrc

theorem ipmiExchange_eq_zero {tries : Nat} :
    (ipmiExchange tries e msg argSize).1 = 0 ↔ e.DeliversIn tries msg argSize := by
  unfold ipmiExchange IpmiPath.DeliversIn
  simp only
  generalize hdd : IpmiDD.new netfunIbm pnorCmd msg.seq ccUnkbad msg (BitVec.ofInt 8 (argSize + 2)) = dd
  have hsend : ∀ i (log : List LpcAccess),
      ((send (e.sends i) dd).1, log ++ (send (e.sends i) dd).2).1 = (e.sends i).result dd := fun _ _ => rfl
  have hpoll : ∀ i (s : IpmiDD × List LpcAccess),
      ((pollCtrl (e.polls i) s.1).1, (pollCtrl (e.polls i) s.1).2.1, s.2 ++ (pollCtrl (e.polls i) s.1).2.2).1 =
        (e.polls i).result := fun _ _ => pollCtrl_result
  constructor
  · intro h
    split at h
    · cases h
    · rename_i _ rc log hsent
      obtain ⟨i, t, hi, heq⟩ := retry_some hsend hsent
      cases heq
      split at h
      · rename_i hrc
        exact absurd h hrc
      · rename_i hrc
        split at h
        · cases h
        · rename_i _ rc' dd' log' hpolled
          obtain ⟨j, t', hj, heq⟩ := retry_some hpoll hpolled
          cases heq
          split at h
          · rename_i hrc'
            exact absurd h hrc'
          · rename_i hrc'
            rw [not_not, pollCtrl_result] at hrc'
            split at h
            · rename_i hcc
              have hne : (pollCtrl (e.polls j) t'.1).2.1.cc.toNat ≠ 0 := fun h0 => hcc (BitVec.eq_of_toNat_eq h0)
              exact absurd (Int.natCast_eq_zero.1 h) hne
            · rename_i hcc
              split at h
              · cases h
              · rename_i hsize
                split at h
                · cases h
                · rename_i hseq
                  refine ⟨i, j, hi, not_not.1 hrc, hj, delivers_iff.2 ⟨hrc', not_not.1 hcc, ?_, not_not.1 hseq⟩⟩
                  exact Nat.le_of_not_lt hsize
  · rintro ⟨i, j, hi, hzero, hj, hdelivers⟩
    obtain ⟨log, hsent⟩ := hi.retry (s := ([] : List LpcAccess)) hsend
    obtain ⟨t, hpolled⟩ := hj.retry (s := (dd, log ++ (send (e.sends i) dd).2)) hpoll
    obtain ⟨hresult, hcc, hsize, hseq⟩ := (@delivers_iff _ t.1).1 hdelivers
    rw [hsent]
    simp only
    rw [if_neg (not_not.2 (show (send (e.sends i) dd).1 = 0 from hzero)), hpolled]
    simp only
    rw [if_neg (not_not.2 (pollCtrl_result.trans hresult)), if_neg (not_not.2 hcc), if_neg (Nat.not_lt.2 hsize),
      if_neg (not_not.2 hseq)]

theorem ipmiSendCommand_eq_zero : (ipmiSendCommand e msg argSize).1 = 0 ↔ e.Delivers msg argSize :=
  ipmiExchange_eq_zero

end

end Occ.Firdata
