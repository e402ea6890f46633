/-
A message to the BMC (`firdata/ast_mboxdd.c`): it goes over IPMI, and over the mailbox registers when that fails. The
error of the IPMI path is still in the error variable when the mailbox path begins, and ends it before its first access.
-/
import Occ.Firdata.Ipmi

namespace Occ.Firdata

open Retry

def mboxDataRegs : Nat := 14
def mboxStatus1 : Nat := 0x11
def mboxHostCtrl : Nat := 0x13
def mboxIoBase : Nat := 0x1000
def mboxStatus1Resp : BitVec 8 := 0x20
def mboxCtrlIntSend : BitVec 8 := 0x01
def mboxRSuccess : BitVec 8 := 0x01
def mboxMaxRespWaitUs : Nat := 10000000

/-- What the mailbox path meets: the errors of its writes and reads, and the bytes it reads. -/
structure MboxPath where
  outRc : Nat → Int
  clearRc : Int
  pingRc : Int
  statusRc : Nat → Int
  status : Nat → BitVec 8
  quietRc : Int
  ackRc : Int
  inRc : Nat → Int
  byte : Nat → BitVec 8

/-- `mboxOut` -/
def mboxOut (i : Nat) (b : BitVec 8) : LpcAccess := .write (mboxIoBase + i) b

/-- `mboxIn` -/
def mboxIn (i : Nat) : LpcAccess := .read (mboxIoBase + i)

/-- The loop that writes the message, with `n` bytes to go and the error so far. -/
def mboxOutLoop (rc : Nat → Int) (msg : MboxMessage) : Nat → Nat → Int → Int × List LpcAccess
  | 0, _, err => (err, [])
  | n + 1, i, err =>
    if err ≠ 0 then (err, [])
    else
      let r := mboxOutLoop rc msg n (i + 1) (rc i)
      (r.1, mboxOut i (msg i) :: r.2)

/-- The loop that reads the response. -/
def mboxInLoop (rc : Nat → Int) (byte : Nat → BitVec 8) : Nat → Nat → Int → MboxMessage →
    Int × MboxMessage × List LpcAccess
  | 0, _, err, msg => (err, msg, [])
  | n + 1, i, err, msg =>
    if err ≠ 0 then (err, msg, [])
    else
      let r := mboxInLoop rc byte n (i + 1) (rc i) (if rc i = 0 then msg.set i (byte i) else msg)
      (r.1, r.2.1, mboxIn i :: r.2.2)

/-- The wait goes on while the status can be read and does not show a response. -/
def noResponse (s : Int × BitVec 8) : Bool := s.1 == 0 && s.2 &&& mboxStatus1Resp == 0

/-- The mailbox path of `doMessage`, with `tries` reads of the status, from the error variable on: the error, whether it
is one that the protocol has made, the message and the accesses. -/
def mboxExchange (tries : Nat) (e : MboxPath) (msg : MboxMessage) (err : Int) :
    Int × Bool × MboxMessage × List LpcAccess :=
  let w := mboxOutLoop e.outRc msg mboxDataRegs 0 err
  if w.1 ≠ 0 then (w.1, false, msg, w.2)
  else
    let log := w.2 ++ [mboxOut mboxStatus1 mboxStatus1Resp]
    if e.clearRc ≠ 0 then (e.clearRc, false, msg, log)
    else
      let log := log ++ [mboxOut mboxHostCtrl mboxCtrlIntSend]
      if e.pingRc ≠ 0 then (e.pingRc, false, msg, log)
      else
        match retry noResponse tries
            (fun i (log : List LpcAccess) => ((e.statusRc i, e.status i), log ++ [mboxIn mboxStatus1])) log with
        -- on a timeout the error is the one of the write that stops the interrupts
        | (none, log) => (e.quietRc, true, msg, log ++ [mboxOut mboxHostCtrl 0])
        | (some (rc, _), log) =>
          if rc ≠ 0 then (rc, false, msg, log)
          else
            let log := log ++ [mboxOut mboxStatus1 mboxStatus1Resp]
            if e.ackRc ≠ 0 then (e.ackRc, false, msg, log)
            else
              let r := mboxInLoop e.inRc e.byte mboxDataRegs 0 0 msg
              let log := log ++ r.2.2
              if r.1 ≠ 0 then (r.1, false, r.2.1, log)
              else if msg.seq ≠ r.2.1.seq then (-1, false, r.2.1, log)
              else if r.2.1.resp ≠ mboxRSuccess then (-1, true, r.2.1, log)
              else (0, false, r.2.1, log)

/-- What `doMessage` returns, the message with the response, the next sequence number, and the accesses. -/
structure MessageResult where
  err : Int
  msg : MboxMessage
  mboxMsgSeq : BitVec 8
  log : List LpcAccess

/-- `doMessage` -/
def doMessage (ipmi : IpmiPath) (mbox : MboxPath) (mboxMsgSeq : BitVec 8) (msg : MboxMessage) (argSize : Int) :
    MessageResult :=
  let msg := msg.set 1 mboxMsgSeq
  let r := ipmiSendCommand ipmi msg argSize
  if r.1 ≠ 0 then
    let m := mboxExchange mboxMaxRespWaitUs mbox r.2.1 r.1
    { err := if m.1 ≠ 0 ∧ m.2.1 = false then -1 else m.1
      msg := m.2.2.1
      mboxMsgSeq := mboxMsgSeq + 1
      log := r.2.2 ++ m.2.2.2 }
  else { err := 0, msg := r.2.1, mboxMsgSeq := mboxMsgSeq + 1, log := r.2.2 }

/-! ## The law -/

/-- The message reaches the BMC over the mailbox registers. -/
def MboxPath.Sends (e : MboxPath) : Prop :=
  (∀ i, i < mboxDataRegs → e.outRc i = 0) ∧ e.clearRc = 0 ∧ e.pingRc = 0

/-- The mailbox path has a response with the sequence number and the status of success. -/
structure MboxPath.Delivers (e : MboxPath) (seq : BitVec 8) : Prop where
  sends : e.Sends
  responds : ∃ i, Settled noResponse mboxMaxRespWaitUs (fun i => (e.statusRc i, e.status i)) i ∧ e.statusRc i = 0
  read : e.ackRc = 0 ∧ ∀ i, i < mboxDataRegs → e.inRc i = 0
  seq : e.byte 1 = seq
  success : e.byte 13 = mboxRSuccess

/-- The wait for the response on the mailbox path ends without one. -/
def MboxPath.TimesOut (e : MboxPath) : Prop :=
  e.Sends ∧ ∀ i, i < mboxMaxRespWaitUs → noResponse (e.statusRc i, e.status i) = true

/-- What a message owes its sender: no error exactly with a response from one of the paths, the mailbox path tried when
the IPMI path has none, and a timeout reported. -/
structure MessageLaw (ipmi : IpmiPath) (mbox : MboxPath) (mboxMsgSeq : BitVec 8) (msg : MboxMessage)
    (argSize : Int) : Prop where
  delivered : (doMessage ipmi mbox mboxMsgSeq msg argSize).err = 0 ↔
    ipmi.Delivers (msg.set 1 mboxMsgSeq) argSize ∨ mbox.Delivers mboxMsgSeq
  tried : ¬ipmi.Delivers (msg.set 1 mboxMsgSeq) argSize →
    ∃ a ∈ (doMessage ipmi mbox mboxMsgSeq msg argSize).log, mboxIoBase ≤ a.addr
  timeout : ¬ipmi.Delivers (msg.set 1 mboxMsgSeq) argSize → mbox.TimesOut →
    (doMessage ipmi mbox mboxMsgSeq msg argSize).err ≠ 0

section

variable {ipmi : IpmiPath} {mbox : MboxPath} {mboxMsgSeq : BitVec 8} {msg : MboxMessage} {argSize err : Int}
  {tries : Nat} {dd : IpmiDD}

theorem mboxExchange_err (h : err ≠ 0) : mboxExchange tries mbox msg err = (err, false, msg, []) := by
  unfold mboxExchange
  have hloop : mboxOutLoop mbox.outRc msg mboxDataRegs 0 err = (err, []) := if_pos h
  rw [hloop]
  exact if_pos h

/-! ### The accesses of the IPMI path -/

/-- Accesses to the registers of the BT interface. -/
def OnBt (log : List LpcAccess) : Prop := ∀ a ∈ log, a.addr < mboxIoBase

theorem OnBt.append {xs ys : List LpcAccess} (hx : OnBt xs) (hy : OnBt ys) : OnBt (xs ++ ys) := by
  intro a ha
  rcases List.mem_append.1 ha with h | h
  · exact hx a h
  · exact hy a h

theorem OnBt.cons {a : LpcAccess} {xs : List LpcAccess} (ha : a.addr < mboxIoBase) (hx : OnBt xs) : OnBt (a :: xs) := by
  intro b hb
  rcases List.mem_cons.1 hb with rfl | h
  · exact ha
  · exact hx b h

theorem OnBt.nil : OnBt [] := nofun

theorem OnBt.ite {c : Prop} [Decidable c] {xs : List LpcAccess} (h : OnBt xs) : OnBt (if c then xs else []) := by
  split
  · exact h
  · exact .nil

theorem regControl_lt : regControl < mboxIoBase := by decide

theorem regHostbmc_lt : regHostbmc < mboxIoBase := by decide

theorem regIntmask_lt : regIntmask < mboxIoBase := by decide

theorem onBt_lpcAccesses {rc : Nat → Int} {as : List LpcAccess} (h : OnBt as) : OnBt (lpcAccesses rc as).2 := by
  induction as generalizing rc with
  | nil => exact .nil
  | cons a rest ih =>
    have ha := h a List.mem_cons_self
    unfold lpcAccesses
    split
    · exact .cons ha .nil
    · exact .cons ha (ih fun b hb => h b (List.mem_cons_of_mem _ hb))

theorem onBt_send {t : SendTry} : OnBt (send t dd).2 := by
  have hwrites : OnBt dd.sendWrites := by
    unfold IpmiDD.sendWrites
    refine .append (.append ?_ ?_) ?_
    · exact .cons regControl_lt (.cons regHostbmc_lt (.cons regHostbmc_lt (.cons regHostbmc_lt
        (.cons regHostbmc_lt .nil))))
    · intro a ha
      obtain ⟨i, _, rfl⟩ := List.mem_map.1 ha
      exact regHostbmc_lt
    · exact .cons regControl_lt .nil
  unfold send
  split
  · exact .cons regControl_lt (.cons regIntmask_lt .nil)
  · split
    · exact .cons regControl_lt .nil
    · exact .append (.cons regControl_lt (onBt_lpcAccesses hwrites)) (.ite (.cons regIntmask_lt .nil))

theorem onBt_receive {p : Poll} : OnBt (receive p dd).2.2 := by
  have haccesses : OnBt p.receiveAccesses := by
    unfold Poll.receiveAccesses
    refine .append ?_ ?_
    · exact .cons regControl_lt (.cons regControl_lt (.cons regControl_lt (.cons regControl_lt (.cons regHostbmc_lt
        (.cons regHostbmc_lt (.cons regHostbmc_lt (.cons regHostbmc_lt (.cons regHostbmc_lt .nil))))))))
    · intro a ha
      rw [List.eq_of_mem_replicate ha]
      exact regHostbmc_lt
  exact .append (onBt_lpcAccesses haccesses) (.ite (.cons regControl_lt .nil))

theorem onBt_pollCtrl {p : Poll} : OnBt (pollCtrl p dd).2.2 := by
  unfold pollCtrl
  split
  · exact .cons regControl_lt .nil
  · split
    · exact .cons regControl_lt .nil
    · split
      · exact .cons regControl_lt onBt_receive
      · split
        · exact .append (.cons regControl_lt onBt_receive) (.cons regControl_lt .nil)
        · exact .cons regControl_lt .nil

theorem onBt_ipmiExchange {e : IpmiPath} : OnBt (ipmiExchange tries e msg argSize).2.2 := by
  unfold ipmiExchange
  simp only
  generalize IpmiDD.new netfunIbm pnorCmd msg.seq ccUnkbad msg (BitVec.ofInt 8 (argSize + 2)) = dd
  have hsent := @retry_keeps _ _ (· == rcIpmiddNotIdle) tries
    (fun i (log : List LpcAccess) => ((send (e.sends i) dd).1, log ++ (send (e.sends i) dd).2)) _ OnBt
    (fun i log hlog => hlog.append onBt_send) OnBt.nil
  split
  · rename_i heq
    rw [heq] at hsent
    exact hsent
  · rename_i heq
    rw [heq] at hsent
    split
    · exact hsent
    · have hpolled := @retry_keeps _ _ keepsWaiting tries (fun i s => ((pollCtrl (e.polls i) s.1).1, (pollCtrl (e.polls i) s.1).2.1,
          s.2 ++ (pollCtrl (e.polls i) s.1).2.2)) (dd, _) (fun s : IpmiDD × List LpcAccess => OnBt s.2)
        (fun i s hs => hs.append onBt_pollCtrl) hsent
      split
      · rename_i heq'
        rw [heq'] at hpolled
        exact hpolled
      · rename_i heq'
        rw [heq'] at hpolled
        split
        · exact hpolled
        · split
          · exact hpolled
          · split
            · exact hpolled
            · split <;> exact hpolled

/-! ### When the law holds -/

theorem doMessage_failed (h : ¬ipmi.Delivers (msg.set 1 mboxMsgSeq) argSize) :
    (doMessage ipmi mbox mboxMsgSeq msg argSize).err = -1 ∧
      OnBt (doMessage ipmi mbox mboxMsgSeq msg argSize).log := by
  have hrc : (ipmiSendCommand ipmi (msg.set 1 mboxMsgSeq) argSize).1 ≠ 0 :=
    fun h0 => h (ipmiSendCommand_eq_zero.1 h0)
  unfold doMessage
  simp only [if_pos hrc, mboxExchange_err hrc]
  refine ⟨if_pos ⟨hrc, trivial⟩, ?_⟩
  rw [List.append_nil]
  exact onBt_ipmiExchange

/-- The law holds exactly when the IPMI path delivers: the mailbox path is never tried. -/
theorem messageLaw_iff : MessageLaw ipmi mbox mboxMsgSeq msg argSize ↔
    ipmi.Delivers (msg.set 1 mboxMsgSeq) argSize := by
  constructor
  · intro h
    by_contra hnot
    obtain ⟨a, ha, hle⟩ := h.tried hnot
    exact absurd ((doMessage_failed hnot).2 a ha) (Nat.not_lt.2 hle)
  · intro h
    have hrc := ipmiSendCommand_eq_zero.2 h
    refine ⟨⟨fun _ => .inl h, fun _ => ?_⟩, fun hnot => absurd h hnot, fun hnot => absurd h hnot⟩
    unfold doMessage
    simp only [if_neg (not_not.2 hrc)]

end

/-! ### A BMC that has only the mailbox -/

/-- The BT interface cannot be read. -/
def deadIpmi : IpmiPath where
  sends _ := ⟨-1, 0, fun _ => 0⟩
  polls _ := ⟨-1, 0, fun _ => 0, fun _ => 0, 0⟩

/-- The mailbox answers at once, with sequence number 1 and success. -/
def goodMbox : MboxPath where
  outRc _ := 0
  clearRc := 0
  pingRc := 0
  statusRc _ := 0
  status _ := mboxStatus1Resp
  quietRc := 0
  ackRc := 0
  inRc _ := 0
  byte _ := 1

theorem deadIpmi_not_delivers {msg : MboxMessage} {argSize : Int} : ¬deadIpmi.Delivers msg argSize := by
  rintro ⟨i, _, _, hzero, _⟩
  cases hzero

/-- The message fails although the mailbox would have answered it. -/
theorem messageLaw_deadIpmi : goodMbox.Delivers 1 ∧ ¬MessageLaw deadIpmi goodMbox 1 (fun _ => 0) 1 := by
  constructor
  · refine ⟨⟨fun _ _ => rfl, rfl, rfl⟩, ⟨0, ⟨?_, nofun, rfl⟩, rfl⟩, ⟨rfl, fun _ _ => rfl⟩, rfl, rfl⟩
    exact Nat.lt_of_lt_of_le Nat.zero_lt_one (by decide)
  · intro h
    exact deadIpmi_not_delivers (messageLaw_iff.1 h)

end Occ.Firdata
