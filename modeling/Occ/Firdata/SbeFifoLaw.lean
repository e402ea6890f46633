/-
Responses from the SBE FIFO: whatever the registers hold, reading a response ends inside its buffer, and what is accepted
has the form of a successful response to the command; a SCOM read returns the data of such a response, after two requests at
most.
-/
import Occ.Firdata.SbeFifo

namespace Occ.Firdata.SbeFifo

/-! ## The law -/

/-- The words that came out of the downstream FIFO. -/
def received (log : List FsiAccess) : List (BitVec 32) :=
  log.filterMap fun
    | .get addr rc data => if addr = dnfifoDataOut ∧ rc = success then some data else none
    | .put _ _ _ => none

/-- How often a request was begun. -/
def requests (log : List FsiAccess) : Nat :=
  log.countP fun
    | .get _ _ _ => false
    | .put addr _ _ => addr = dnfifoMaxTsfr

/-- The data of a register from their words. -/
def scomData : List (BitVec 32) → BitVec 64
  | [high, low] => high ++ low
  | _ => 0

/-- A successful response: the data, the status header, what else there is, and the distance to the header. -/
def respWords (cmd : BitVec 16) (values trailing : List (BitVec 32)) : List (BitVec 32) :=
  values ++ [fifoStatusMagic ++ cmd, 0] ++ trailing ++ [BitVec.ofNat 32 (3 + trailing.length)]

/-- Words that were received up to the end of the transfer and accepted. -/
def Accepted (cmd : BitVec 16) (words : List (BitVec 32)) (data : BitVec 64) : Prop :=
  ∃ values trailing eot, words = respWords cmd values trailing ++ [eot] ∧ values.length = (expDataWords cmd).toNat ∧
    data = scomData values

/-- A response to a command, and a SCOM read. -/
structure FifoLaw (f : Fsi) : Prop where
  readResponse : ∀ cmd log, ∃ r suffix, readResponse f cmd log = .ok r ∧ r.log = log ++ suffix ∧
    (r.rc = success → Accepted cmd (received suffix) r.data)
  getFifoScom : ∀ addr data log, ∃ r suffix, getFifoScom f addr data log = .ok r ∧ r.log = log ++ suffix ∧
    requests suffix ≤ 2 ∧ (r.rc = success → ∃ earlier response, suffix = earlier ++ response ∧
      SbeFifo.readResponse f getScomCmd (log ++ earlier) = .ok r ∧ Accepted getScomCmd (received response) r.data)

/-! ## Accesses -/

/-- From `log` to `log'` there are `n` requests at most, and `words` are received. -/
def Passes (log log' : List FsiAccess) (n : Nat) (words : List (BitVec 32)) : Prop :=
  ∃ suffix, log' = log ++ suffix ∧ requests suffix ≤ n ∧ received suffix = words

namespace Passes

variable {log log' log'' : List FsiAccess} {n m : Nat} {ws us : List (BitVec 32)}

theorem refl : Passes log log 0 [] := ⟨[], (List.append_nil log).symm, Nat.le_refl 0, rfl⟩

theorem trans (h : Passes log log' n ws) (h' : Passes log' log'' m us) : Passes log log'' (n + m) (ws ++ us) := by
  obtain ⟨s, rfl, hn, rfl⟩ := h
  obtain ⟨s', rfl, hm, rfl⟩ := h'
  refine ⟨s ++ s', (List.append_assoc log s s').symm.symm, ?_, ?_⟩
  · unfold requests at *
    rw [List.countP_append]
    exact Nat.add_le_add hn hm
  · exact List.filterMap_append ..

end Passes

section
variable (f : Fsi) (log : List FsiAccess)

theorem getfsi_passes {addr : BitVec 32} (h : addr ≠ dnfifoDataOut) : Passes log (getfsi f addr log).log 0 [] := by
  refine ⟨_, rfl, Nat.le_refl 0, ?_⟩
  unfold received
  rw [List.filterMap_cons_none]
  · rfl
  · exact if_neg fun h' => h h'.1

theorem putfsi_passes (addr data : BitVec 32) (h : addr ≠ dnfifoMaxTsfr) :
    Passes log (putfsi f addr data log).log 0 [] := by
  refine ⟨_, rfl, ?_, rfl⟩
  unfold requests
  rw [List.countP_cons_of_neg]
  · exact Nat.le_refl 0
  · exact fun h' => h (of_decide_eq_true h')

theorem request_passes : Passes log (putfsi f dnfifoMaxTsfr 0 log).log 1 [] := ⟨_, rfl, Nat.le_refl 1, rfl⟩

theorem dataOut_passes : Passes log (getfsi f dnfifoDataOut log).log 0
    (if (getfsi f dnfifoDataOut log).rc = success then [(getfsi f dnfifoDataOut log).data] else []) := by
  refine ⟨_, rfl, Nat.le_refl 0, ?_⟩
  show received [.get dnfifoDataOut (getfsi f dnfifoDataOut log).rc (getfsi f dnfifoDataOut log).data] = _
  unfold received
  split_ifs with hok
  · simp [hok]
  · simp [hok]

theorem poll_passes {addr : BitVec 32} (ready : BitVec 32 → Bool) (timeout : BitVec 32) (h : addr ≠ dnfifoDataOut)
    (waits : Nat) : Passes log (poll f addr ready timeout waits log).log 0 [] := by
  induction waits generalizing log with
  | zero =>
    unfold poll
    dsimp only
    split
    · exact getfsi_passes f log h
    · exact getfsi_passes f log h
  | succ waits ih =>
    unfold poll
    dsimp only
    split
    · exact getfsi_passes f log h
    · exact (getfsi_passes f log h).trans (ih _)

theorem waitUpFifoReady_passes : Passes log (waitUpFifoReady f log).log 0 [] := poll_passes f log _ _ (by decide) _

theorem waitDnFifoReady_passes : Passes log (waitDnFifoReady f log).log 0 [] := poll_passes f log _ _ (by decide) _

theorem upFifoReset_passes : Passes log (upFifoReset f log).log 0 [] := by
  have hput := putfsi_passes f log upfifoReqReset 0xDEAD (by decide)
  unfold upFifoReset
  dsimp only
  split
  · exact hput
  · exact hput.trans (poll_passes f _ _ _ (by decide) _)

theorem awaitTransfer_passes (ticks : Nat) : Passes log (awaitTransfer f ticks log).log 0 [] := by
  induction ticks generalizing log with
  | zero => exact .refl
  | succ ticks ih =>
    have hwait := waitDnFifoReady_passes f log
    unfold awaitTransfer
    dsimp only
    split_ifs
    · exact hwait
    · exact hwait.trans (ih _)
    · exact hwait

end

/-! ## Requests -/

section
variable (f : Fsi) (request : List (BitVec 32))

theorem sendWords_spec (n i : Nat) (log : List FsiAccess) (h : i + n ≤ request.length) :
    ∃ r, sendWords f request n i log = .ok r ∧ Passes log r.log 0 [] := by
  induction n generalizing i log with
  | zero => exact ⟨_, rfl, .refl⟩
  | succ n ih =>
    have hwait := waitUpFifoReady_passes f log
    unfold sendWords
    dsimp only
    rw [List.getElem?_eq_getElem (by omega)]
    dsimp only
    have hput := hwait.trans (putfsi_passes f (waitUpFifoReady f log).log upfifoDataIn request[i] (by decide))
    split_ifs
    · exact ⟨_, rfl, hwait⟩
    · exact ⟨_, rfl, hput⟩
    · obtain ⟨r, hr, hpasses⟩ := ih (i + 1) _ (by omega)
      exact ⟨r, hr, hput.trans hpasses⟩

/-- A request whose first word is the number of its words. -/
theorem writeRequest_spec (log : List FsiAccess) (h : request[0]? = some (BitVec.ofNat 32 request.length))
    (hlen : request.length < 2 ^ 32) : ∃ r, writeRequest f request log = .ok r ∧ Passes log r.log 1 [] := by
  have hbegin := request_passes f log
  have hcount : (BitVec.ofNat 32 request.length).toNat = request.length := by
    rw [BitVec.toNat_ofNat]
    exact Nat.mod_eq_of_lt hlen
  obtain ⟨s, hs, hsent⟩ := sendWords_spec f request request.length 0 (putfsi f dnfifoMaxTsfr 0 log).log
    (by omega)
  have hsent' := hbegin.trans hsent
  have hwait := hsent'.trans (waitUpFifoReady_passes f s.log)
  unfold writeRequest
  dsimp only
  rw [h]
  dsimp only
  rw [hcount, hs]
  dsimp only [bind, Except.bind, pure, Except.pure]
  split_ifs
  · exact ⟨_, rfl, hbegin⟩
  · exact ⟨_, rfl, hsent'⟩
  · exact ⟨_, rfl, hwait⟩
  · exact ⟨_, rfl, hwait.trans (putfsi_passes f _ _ _ (by decide))⟩

end

/-! ## Checking a response -/

theorem split_words {α : Type} (ws : List α) (n : Nat) (h : n + 3 ≤ ws.length) :
    ∃ middle, ws = ws.take n ++ [ws[n], ws[n + 1]] ++ middle ++ [ws[ws.length - 1]] ∧
      middle.length + n + 3 = ws.length := by
  have hrest : ws.drop (n + 2) ≠ [] := by
    intro hnil
    have hlen := congrArg List.length hnil
    rw [List.length_drop, List.length_nil] at hlen
    omega
  have hlast : (ws.drop (n + 2)).getLast hrest = ws[ws.length - 1] := by
    rw [List.getLast_drop, List.getLast_eq_getElem]
  refine ⟨(ws.drop (n + 2)).dropLast, ?_, ?_⟩
  · rw [List.append_assoc, ← hlast, List.dropLast_append_getLast, List.append_assoc]
    have hsecond : ws.drop (n + 1) = ws[n + 1] :: ws.drop (n + 2) := List.drop_eq_getElem_cons (by omega)
    have hfirst : ws.drop n = ws[n] :: ws.drop (n + 1) := List.drop_eq_getElem_cons (by omega)
    rw [hsecond] at hfirst
    exact (hfirst ▸ List.take_append_drop n ws).symm
  · rw [List.length_dropLast, List.length_drop]
    omega

section
variable {readBuffer : Vector (BitVec 32) readBufferSize} {ws : List (BitVec 32)}

/-- The words read so far are in the buffer. -/
def Holds (readBuffer : Vector (BitVec 32) readBufferSize) (ws : List (BitVec 32)) : Prop :=
  ws.length ≤ readBufferSize ∧ ∀ i < ws.length, readBuffer[i]? = ws[i]?

theorem Holds.load (h : Holds readBuffer ws) {i word : BitVec 32} (hword : ws[i.toNat]? = some word) :
    loadWord readBuffer i = .ok word := by
  obtain ⟨hi, -⟩ := List.getElem?_eq_some_iff.1 hword
  have hget := h.2 i.toNat hi
  rw [hword] at hget
  unfold loadWord
  rw [hget]

theorem Holds.initial {us : List (BitVec 32)} (h : Holds readBuffer (ws ++ us)) : Holds readBuffer ws := by
  obtain ⟨hlen, hget⟩ := h
  rw [List.length_append] at hlen hget
  refine ⟨by omega, fun i hi => ?_⟩
  rw [hget i (by omega), List.getElem?_append_left hi]

theorem Holds.push (h : Holds readBuffer ws) (word : BitVec 32) (hroom : ws.length < readBufferSize) :
    Holds (readBuffer.set ws.length word hroom) (ws ++ [word]) := by
  refine ⟨by rw [List.length_append, List.length_singleton]; omega, fun i hi => ?_⟩
  rw [List.length_append, List.length_singleton] at hi
  rw [Vector.getElem?_set]
  by_cases heq : ws.length = i
  · subst heq
    rw [if_pos rfl, List.getElem?_concat_length]
  · rw [if_neg heq, h.2 i (by omega), List.getElem?_append_left (by omega)]

theorem header_eq {word : BitVec 32} {magic cmd : BitVec 16} (hmagic : word.extractLsb' 16 16 = magic)
    (hcmd : word.extractLsb' 0 16 = cmd) : word = magic ++ cmd := by
  subst hmagic
  subst hcmd
  have hword : word.extractLsb' 16 16 ++ word.extractLsb' 0 16 = word.extractLsb' 0 (16 + 16) :=
    (BitVec.extractLsb'_append_extractLsb'_eq_extractLsb' rfl).symm.symm
  rw [hword, BitVec.extractLsb'_eq_self]

/-- The end of the checks, for a response with its last word and its header. -/
theorem checkStatus_spec {cmd : BitVec 16} {distance num status : BitVec 32} {data : BitVec 64}
    (hlen : ws.length ≤ readBufferSize) (hnum : num.toNat + distance.toNat = ws.length) (hmin : 3 ≤ distance.toNat)
    (hlast : ws[ws.length - 1]? = some distance) (hheader : ws[num.toNat]? = some (fifoStatusMagic ++ cmd))
    (hstat : ws[num.toNat + 1]? = some status) (hdata : expDataWords cmd = num → data = scomData (ws.take num.toNat))
    (hrc : (checkStatus cmd status num data).1 = success) :
    ∃ values trailing, ws = respWords cmd values trailing ∧ values.length = (expDataWords cmd).toNat ∧
      (checkStatus cmd status num data).2 = scomData values := by
  have hbuf : ws.length ≤ 8 := hlen
  unfold checkStatus at hrc ⊢
  by_cases herror : status.extractLsb' 16 16 ≠ 0 ∨ status.extractLsb' 0 16 ≠ 0
  · rw [if_pos herror] at hrc
    exact absurd (show rcRespScomError = success from hrc) (by decide)
  rw [if_neg herror] at hrc ⊢
  by_cases hexp : expDataWords cmd ≠ num
  · rw [if_pos hexp] at hrc
    exact absurd (show rcRespUnexpectedDataSize = success from hrc) (by decide)
  rw [if_neg hexp]
  obtain ⟨hprimary, hsecondary⟩ := not_or.1 herror
  have hexp := not_not.1 hexp
  obtain ⟨middle, hsplit, hmiddle⟩ := split_words ws num.toNat (by omega)
  refine ⟨ws.take num.toNat, middle, ?_, ?_, hdata hexp⟩
  · have hstatus : status = 0 := header_eq (not_not.1 hprimary) (not_not.1 hsecondary)
    have hdistance : distance = BitVec.ofNat 32 (3 + middle.length) := by
      apply BitVec.eq_of_toNat_eq
      rw [BitVec.toNat_ofNat, Nat.mod_eq_of_lt (show 3 + middle.length < 2 ^ 32 by omega)]
      omega
    obtain ⟨hlast', hlast⟩ := List.getElem?_eq_some_iff.1 hlast
    obtain ⟨hheader', hheader⟩ := List.getElem?_eq_some_iff.1 hheader
    obtain ⟨hstat', hstat⟩ := List.getElem?_eq_some_iff.1 hstat
    unfold respWords
    rw [← hdistance, ← hstatus]
    rwa [hheader, hstat, hlast] at hsplit
  · rw [List.length_take, hexp]
    omega

theorem scomData_take {first second : BitVec 32} (h : ws[0]? = some first) (h' : ws[1]? = some second) :
    scomData (ws.take 2) = first ++ second := by
  match ws, h, h' with
  | _ :: _ :: _, h, h' =>
    obtain rfl := Option.some.inj h
    obtain rfl := Option.some.inj h'
    rfl

theorem exists_word {i : Nat} (h : i < ws.length) : ∃ word, ws[i]? = some word := ⟨_, List.getElem?_eq_getElem h⟩

/-- What is accepted is a successful response. -/
theorem checkResponse_spec (cmd : BitVec 16) {wordsReceived : BitVec 32} (h : Holds readBuffer ws)
    (hlen : wordsReceived.toNat = ws.length) : ∃ c, checkResponse cmd readBuffer wordsReceived = .ok c ∧
      (c.1 = success → ∃ values trailing, ws = respWords cmd values trailing ∧
        values.length = (expDataWords cmd).toNat ∧ c.2 = scomData values) := by
  have hbuf : readBufferSize = 8 := rfl
  have hmin : minWords.toNat = 3 := rfl
  have hone : (1 : BitVec 32).toNat = 1 := rfl
  have hsize := h.1
  unfold checkResponse
  by_cases hshort : wordsReceived < minWords
  · rw [if_pos hshort]
    exact ⟨_, rfl, fun hrc => absurd hrc (by decide)⟩
  have hlow : ¬wordsReceived.toNat < minWords.toNat := hshort
  have hlast : (wordsReceived - 1).toNat = ws.length - 1 := by
    rw [BitVec.toNat_sub_of_le (by rw [BitVec.le_def]; omega), hlen, hone]
  obtain ⟨distance, hend⟩ := @exists_word ws (ws.length - 1) (by omega)
  rw [if_neg hshort, h.load (hlast ▸ hend)]
  dsimp only [bind, Except.bind, pure, Except.pure]
  by_cases hdistance : distance < minWords ∨ wordsReceived < distance
  · rw [if_pos hdistance]
    exact ⟨_, rfl, fun hrc => absurd hrc (by decide)⟩
  rw [if_neg hdistance]
  obtain ⟨hfar, hnear⟩ := not_or.1 hdistance
  have hfar : ¬distance.toNat < minWords.toNat := hfar
  have hnear : ¬wordsReceived.toNat < distance.toNat := hnear
  -- none of the word counts wraps
  obtain ⟨num, hnum⟩ : ∃ num, wordsReceived - distance = num := ⟨_, rfl⟩
  have hnumNat : num.toNat = ws.length - distance.toNat := by
    rw [← hnum, BitVec.toNat_sub_of_le (Nat.not_lt.1 hnear), hlen]
  have hnext : (num + 1).toNat = num.toNat + 1 := by
    rw [BitVec.toNat_add, hone]
    omega
  obtain ⟨header, hheader⟩ := @exists_word ws (num.toNat) (by omega)
  obtain ⟨status, hstatus⟩ := @exists_word ws (num.toNat + 1) (by omega)
  rw [hnum, h.load hheader, h.load (i := num + 1) (hnext.symm ▸ hstatus)]
  dsimp only
  by_cases hmagic : header.extractLsb' 16 16 ≠ fifoStatusMagic
  · rw [if_pos hmagic]
    exact ⟨_, rfl, fun hrc => absurd hrc (by decide)⟩
  rw [if_neg hmagic]
  by_cases hcmd : header.extractLsb' 0 16 ≠ cmd
  · rw [if_pos hcmd]
    exact ⟨_, rfl, fun hrc => absurd hrc (by decide)⟩
  rw [if_neg hcmd]
  rw [header_eq (not_not.1 hmagic) (not_not.1 hcmd)] at hheader
  by_cases hdata : cmdType cmd = sbeFifoCmdGetScom ∧ expDataWords cmd = num
  · -- the two words of the data
    have htwo : num.toNat = 2 := by
      rw [← hdata.2, expDataWords, if_pos hdata.1]
      rfl
    obtain ⟨first, hfirst⟩ := @exists_word ws (0) (by omega)
    obtain ⟨second, hsecond⟩ := @exists_word ws (1) (by omega)
    rw [if_pos hdata, h.load (i := 0) hfirst, h.load (i := 1) hsecond]
    refine ⟨_, rfl, fun hrc => checkStatus_spec hsize (by omega) (by omega) hend hheader hstatus (fun _ => ?_) hrc⟩
    rw [htwo]
    exact (scomData_take hfirst hsecond).symm
  · rw [if_neg hdata]
    refine ⟨_, rfl, fun hrc => checkStatus_spec hsize (by omega) (by omega) hend hheader hstatus (fun hexp => ?_) hrc⟩
    have hput : ¬cmdType cmd = sbeFifoCmdGetScom := fun hget => hdata ⟨hget, hexp⟩
    rw [← hexp, expDataWords, if_neg hput]
    rfl

end

/-! ## Reading a response -/

section
variable (f : Fsi)

theorem dropDummy {readBuffer : Vector (BitVec 32) readBufferSize} {ws : List (BitVec 32)} {wordsReceived : BitVec 32}
    (h : Holds readBuffer ws) (hlen : wordsReceived.toNat = ws.length) : Holds readBuffer ws.dropLast ∧
      (if 0 < wordsReceived then wordsReceived - 1 else wordsReceived).toNat = ws.dropLast.length := by
  have hone : (1 : BitVec 32).toNat = 1 := rfl
  have hzero : (0 : BitVec 32).toNat = 0 := rfl
  constructor
  · obtain rfl | ⟨us, word, rfl⟩ := List.eq_nil_or_concat ws
    · exact h
    · rw [List.concat_eq_append] at h ⊢
      rw [List.dropLast_concat]
      exact h.initial
  · rw [List.length_dropLast]
    split_ifs with hpos
    · have hpos : (0 : BitVec 32).toNat < wordsReceived.toNat := hpos
      rw [BitVec.toNat_sub_of_le (by rw [BitVec.le_def]; omega), hlen, hone]
    · have hpos : ¬(0 : BitVec 32).toNat < wordsReceived.toNat := hpos
      omega

/-- The loop ends inside the buffer; at the end of the transfer all words but the dummy are in it. -/
theorem readWords_spec (fuel : Nat) (readBuffer : Vector (BitVec 32) readBufferSize) (ws : List (BitVec 32))
    (wordsReceived : BitVec 32) (log : List FsiAccess) (h : Holds readBuffer ws) (hlen : wordsReceived.toNat = ws.length)
    (hfuel : readBufferSize < ws.length + fuel) : ∃ r us, readWords f fuel readBuffer wordsReceived log = .ok r ∧
      Passes log r.log 0 us ∧ (r.rc = success → Holds r.readBuffer (ws ++ us).dropLast ∧
        r.wordsReceived.toNat = (ws ++ us).dropLast.length) := by
  have hbuf : readBufferSize = 8 := rfl
  induction fuel generalizing readBuffer ws wordsReceived log with
  | zero =>
    have hle := h.1
    omega
  | succ fuel ih =>
    have hwait := waitDnFifoReady_passes f log
    have hend := dropDummy h hlen
    unfold readWords
    dsimp only
    generalize (if 0 < wordsReceived then wordsReceived - 1 else wordsReceived) = received at hend ⊢
    split_ifs with hrc heot hfull hroom hget
    · exact ⟨_, [], rfl, hwait, fun hok => absurd hok hrc⟩
    · refine ⟨_, [], rfl, hwait, fun _ => ?_⟩
      rw [List.append_nil]
      exact hend
    · exact ⟨_, [], rfl, hwait, fun hok => absurd (show rcRespDataOverflow = success from hok) (by decide)⟩
    · have hread := dataOut_passes f (waitDnFifoReady f log).log
      rw [if_neg hget] at hread
      exact ⟨_, [], rfl, hwait.trans hread, fun hok => absurd hok hget⟩
    · have hread := dataOut_passes f (waitDnFifoReady f log).log
      rw [if_pos (not_not.1 hget)] at hread
      have hone : (1 : BitVec 32).toNat = 1 := rfl
      have hnext : (wordsReceived + 1).toNat = wordsReceived.toNat + 1 := by
        rw [BitVec.toNat_add, hone]
        omega
      have hpush := h.push (getfsi f dnfifoDataOut (waitDnFifoReady f log).log).data (by omega)
      simp only [← hlen] at hpush
      obtain ⟨r, us, hr, hpasses, hend⟩ := ih _ _ (wordsReceived + 1) _ hpush
        (by rw [hnext, List.length_append, List.length_singleton, hlen])
        (by rw [List.length_append, List.length_singleton]; omega)
      rw [List.append_assoc] at hend
      exact ⟨r, _, hr, hwait.trans (hread.trans hpasses), hend⟩
    · exact absurd (Nat.lt_of_not_le hfull) hroom

/-- A response, whatever comes out of the FIFO. -/
theorem readResponse_spec (cmd : BitVec 16) (log : List FsiAccess) : ∃ r words, readResponse f cmd log = .ok r ∧
    Passes log r.log 0 words ∧ (r.rc = success → Accepted cmd words r.data) := by
  have hstart := awaitTransfer_passes f log timeoutForStartOfTrx
  unfold readResponse
  dsimp only
  by_cases hrc : (awaitTransfer f timeoutForStartOfTrx log).rc ≠ success
  · rw [if_pos hrc]
    exact ⟨_, [], rfl, hstart, fun hok => absurd hok hrc⟩
  rw [if_neg hrc]
  obtain ⟨r, words, hr, hread, hend⟩ := readWords_spec f (readBufferSize + 1) (f.stack log) [] 0
    (awaitTransfer f timeoutForStartOfTrx log).log ⟨Nat.zero_le _, nofun⟩ rfl (by decide)
  have hread' := hstart.trans hread
  rw [List.nil_append] at hend hread'
  rw [hr]
  dsimp only [bind, Except.bind, pure, Except.pure]
  by_cases hok : r.rc ≠ success
  · rw [if_pos hok]
    exact ⟨_, words, rfl, hread', fun hok' => absurd hok' hok⟩
  rw [if_neg hok]
  have hack := hread'.trans (putfsi_passes f r.log dnfifoAckEot fsbUpfifoSigEot (by decide))
  rw [List.append_nil] at hack
  by_cases hput : (putfsi f dnfifoAckEot fsbUpfifoSigEot r.log).rc ≠ success
  · rw [if_pos hput]
    exact ⟨_, words, rfl, hack, fun hok' => absurd hok' hput⟩
  rw [if_neg hput]
  obtain ⟨hholds, hcount⟩ := hend (not_not.1 hok)
  obtain ⟨c, hc, haccepted⟩ := checkResponse_spec cmd hholds hcount
  rw [hc]
  refine ⟨_, words, rfl, hack, fun hsuccess => ?_⟩
  obtain ⟨values, trailing, hwords, hvalues, hdata⟩ := haccepted hsuccess
  -- a response is not empty, so the dummy was read
  have hne : words ≠ [] := by
    rintro rfl
    have hlen := congrArg List.length hwords
    unfold respWords at hlen
    simp at hlen
  refine ⟨values, trailing, words.getLast hne, ?_, hvalues, hdata⟩
  rw [← hwords, List.dropLast_append_getLast]

end

/-! ## A SCOM read -/

section
variable (f : Fsi) (addr : BitVec 64)

/-- Each time around there is one request more. -/
theorem getFifoScomLoop_spec (fuel attempts : Nat) (data : BitVec 64) (log : List FsiAccess) (hattempts : attempts ≤ 1)
    (hfuel : 2 ≤ attempts + fuel) : ∃ r suffix, getFifoScomLoop f addr fuel attempts data log = .ok r ∧
      r.log = log ++ suffix ∧ requests suffix ≤ 2 - attempts ∧
      (r.rc = success → ∃ earlier response, suffix = earlier ++ response ∧
        readResponse f getScomCmd (log ++ earlier) = .ok r ∧ Accepted getScomCmd (received response) r.data) := by
  induction fuel generalizing attempts data log with
  | zero => omega
  | succ fuel ih =>
    obtain ⟨w, hw, hwrite⟩ := writeRequest_spec f (getScomRequest addr) log rfl
      (show 4 < 2 ^ 32 by decide)
    obtain ⟨r, words, hr, hread, haccepted⟩ := readResponse_spec f getScomCmd w.log
    obtain ⟨s₁, hlog₁, hn₁, -⟩ := hwrite
    obtain ⟨s₂, hlog₂, hn₂, hwords⟩ := hread
    obtain ⟨s₃, hlog₃, hn₃, -⟩ := upFifoReset_passes f r.log
    have hcount : ∀ s s' : List FsiAccess, requests (s ++ s') = requests s + requests s' := fun s s' => List.countP_append
    unfold getFifoScomLoop
    rw [hw]
    dsimp only [bind, Except.bind, pure, Except.pure]
    by_cases hsent : w.rc ≠ success
    · rw [if_pos hsent]
      exact ⟨_, s₁, rfl, hlog₁, by omega, fun hok => absurd hok hsent⟩
    rw [if_neg hsent, hr]
    dsimp only
    by_cases hretry : ¬retried r.rc
    · rw [if_pos hretry]
      refine ⟨r, s₁ ++ s₂, rfl, ?_, ?_, fun hok => ⟨s₁, s₂, rfl, ?_, ?_⟩⟩
      · rw [hlog₂, hlog₁, List.append_assoc]
      · rw [hcount]
        omega
      · rw [← hlog₁]
        exact hr
      · rw [hwords]
        exact haccepted hok
    rw [if_neg hretry]
    have hbad : r.rc ≠ success := by
      intro hok
      rw [hok] at hretry
      exact hretry (by decide)
    have hall : (upFifoReset f r.log).log = log ++ (s₁ ++ (s₂ ++ s₃)) := by
      rw [hlog₃, hlog₂, hlog₁, List.append_assoc, List.append_assoc]
    have hone : requests (s₁ ++ (s₂ ++ s₃)) ≤ 1 := by
      rw [hcount, hcount]
      omega
    by_cases htimeout : (upFifoReset f r.log).rc = rcFifoTimeoutReset
    · rw [if_pos htimeout]
      exact ⟨_, _, rfl, hall, by omega, fun hok => absurd hok hbad⟩
    rw [if_neg htimeout]
    by_cases hlast : 2 ≤ attempts + 1
    · rw [if_pos hlast]
      exact ⟨_, _, rfl, hall, by omega, fun hok => absurd (show rcFifoTimeoutDn = success from hok) (by decide)⟩
    rw [if_neg hlast]
    obtain ⟨r', s, hr', hlog', hn', haccepted'⟩ := ih (attempts + 1) r.data (upFifoReset f r.log).log (by omega)
      (by omega)
    refine ⟨r', s₁ ++ (s₂ ++ s₃) ++ s, hr', ?_, ?_, fun hok => ?_⟩
    · rw [hlog', hall, List.append_assoc]
    · rw [hcount]
      omega
    · obtain ⟨earlier, response, rfl, hresponse, hdata⟩ := haccepted' hok
      refine ⟨s₁ ++ (s₂ ++ s₃) ++ earlier, response, (List.append_assoc ..).symm, ?_, hdata⟩
      rwa [hall, List.append_assoc] at hresponse

/-- A SCOM write that succeeds has had a successful response. -/
theorem putFifoScom_spec (data : BitVec 64) (log : List FsiAccess) : ∃ r suffix, putFifoScom f addr data log = .ok r ∧
    r.log = log ++ suffix ∧ (r.rc = success → ∃ earlier response unused, suffix = earlier ++ response ∧
      Accepted putScomCmd (received response) unused) := by
  obtain ⟨w, hw, s₁, hlog₁, -, -⟩ := writeRequest_spec f (putScomRequest addr data) log rfl
    (show 6 < 2 ^ 32 by decide)
  obtain ⟨r, words, hr, ⟨s₂, hlog₂, -, hwords⟩, haccepted⟩ := readResponse_spec f putScomCmd w.log
  unfold putFifoScom
  rw [hw]
  dsimp only [bind, Except.bind, pure, Except.pure]
  by_cases hsent : w.rc = success
  · rw [if_pos hsent, hr]
    dsimp only [Functor.map, Except.map]
    by_cases hok : r.rc ≠ success
    · rw [if_pos hok]
      obtain ⟨s₃, hlog₃, -, -⟩ := upFifoReset_passes f r.log
      refine ⟨_, s₁ ++ (s₂ ++ s₃), rfl, ?_, fun hok' => absurd hok' hok⟩
      dsimp only
      rw [hlog₃, hlog₂, hlog₁, List.append_assoc, List.append_assoc]
    · rw [if_neg hok]
      refine ⟨_, s₁ ++ s₂, rfl, ?_, fun hok' => ⟨s₁, s₂, r.data, rfl, ?_⟩⟩
      · rw [hlog₂, hlog₁, List.append_assoc]
      · rw [hwords]
        exact haccepted hok'
  · rw [if_neg hsent]
    rw [if_pos hsent]
    obtain ⟨s₃, hlog₃, -, -⟩ := upFifoReset_passes f w.log
    refine ⟨_, s₁ ++ s₃, rfl, ?_, fun hok => absurd hok hsent⟩
    dsimp only
    rw [hlog₃, hlog₁, List.append_assoc]

/-- Reading responses, and SCOM reads through the FIFO. -/
theorem fifo_law (f : Fsi) : FifoLaw f := by
  constructor
  · intro cmd log
    obtain ⟨r, words, hr, ⟨suffix, hlog, -, rfl⟩, haccepted⟩ := readResponse_spec f cmd log
    exact ⟨r, suffix, hr, hlog, haccepted⟩
  · intro addr data log
    exact getFifoScomLoop_spec f addr 3 0 data log (by decide) (by decide)

end

end Occ.Firdata.SbeFifo
