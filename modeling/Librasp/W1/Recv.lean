import Librasp.Foundation.Loop
import Librasp.W1.Netlink

/-!
# `recv_w1msg`: receiving the replies to a w1 request

`recv_w1msg` polls the netlink socket, receives datagrams into one stack buffer, and unpacks each
of them there: the netlink payloads are moved to the front of `recv_buf`, the connector messages
that pass the filter are moved to the front once more, each behind a 4-byte copy of its ack, and
the w1 messages found in the result go to a callback. The model keeps the buffer as a memory whose
contents before the first datagram are arbitrary, and keeps the cursors and remaining lengths of
the source, `dta_len` as a signed number that is compared as such in the first loop and as a
`size_t` in the other two.

`nlStep`, `cnStep` and `w1Step` are one round each of the three parse loops; `recvDatagram` is the
body of the receive loop after `recv()`; `recvLoop` is the receive loop over the outcomes of
`poll()` and `recv()`. A result `none` means that the function has not returned: the outcomes were
used up, or a parse loop was still running when its `fuel` was spent.

**Main result.** `recvW1msg_invariant` is the rule by which callbacks are verified without a look
at the parser: what every call of the callback keeps holds of the data that is left behind.

The message counters of the parse loops only serve the debug log and are left out.
-/

namespace Librasp

/-- `ACK_STAT_VAL`: the connector ack that marks a status message. -/
def ackStatVal : UInt32 := 0xffffffff

/-- `w1msg_more_stat_t`: what a callback wants to happen next. -/
inductive W1msgMoreStat
  /-- No more messages required. -/
  | noMore
  /-- More messages required. -/
  | moreReq
  /-- More messages may be provided but are not required. -/
  | moreOpt
  deriving DecidableEq, Repr

/-- `recv_w1msg_cb_t`: a callback on private data of type `σ`, a received w1 message and the
`is_status` flag. -/
abbrev RecvW1msgCb (σ : Type*) := σ → W1NetlinkMsg → Bool → W1msgMoreStat × σ

/-- What one round of the receive loop meets. -/
inductive RecvEvent
  /-- `poll()` returned 0. -/
  | pollTimeout
  /-- `poll()` failed. -/
  | pollError
  /-- `recv()` failed. -/
  | recvError
  /-- A datagram was waiting. -/
  | datagram (bs : List UInt8)
  deriving DecidableEq

/-! ### The netlink chain -/

/-- Cursor state of the loop over the netlink chain. -/
structure NlState where
  recvBuf : Mem UInt8
  pNlmsg : ℕ
  dtaLen : ℤ
  offs : ℕ

/-- `NLMSG_OK`. -/
def nlmsgOk (s : NlState) : Bool :=
  decide ((nlmsgHdrlen : ℤ) ≤ s.dtaLen) &&
    decide (nlmsgHdrlen ≤ (nlmsghdrAt s.recvBuf s.pNlmsg).nlmsgLen.toNat) &&
      decide (((nlmsghdrAt s.recvBuf s.pNlmsg).nlmsgLen.toNat : ℤ) ≤ s.dtaLen)

/-- Move the payload of a netlink message of `len` bytes to the front of the buffer. -/
def nlCompact (s : NlState) (len : ℕ) : NlState :=
  if nlmsgHdrlen < len then
    { s with
      recvBuf := s.recvBuf.write s.offs
        (s.recvBuf.read (s.pNlmsg + nlmsgHdrlen) (len - nlmsgHdrlen))
      offs := s.offs + (len - nlmsgHdrlen) }
  else s

/-- One round of the loop over the netlink chain. -/
def nlStep (s : NlState) : NlState ⊕ Except LrErrc NlState :=
  if nlmsgOk s then
    let nlmsg := nlmsghdrAt s.recvBuf s.pNlmsg
    let len := nlmsg.nlmsgLen.toNat
    if nlmsg.nlmsgType = nlmsgNoop then
      -- `continue` goes back to the test with the cursor where it was
      .inl s
    else if nlmsg.nlmsgType = nlmsgError then
      .inr (.error .protoErr)
    else if nlmsg.nlmsgType = nlmsgDone ∨ nlmsg.nlmsgFlags &&& nlmFMulti ≠ 0 then
      let s' := nlCompact s len
      if nlmsg.nlmsgType = nlmsgDone then
        .inr (.ok s')
      else
        .inl { s' with
          dtaLen := s'.dtaLen - nlmsgAlign len
          pNlmsg := s'.pNlmsg + nlmsgAlign len }
    else
      .inr (.error .badMsg)
  else
    .inr (.ok s)

/-! ### The connector chain -/

/-- Cursor state of the loop over the connector chain. -/
structure CnState where
  recvBuf : Mem UInt8
  pCnmsg : ℕ
  dtaLen : ℤ
  offs : ℕ

/-- The filter on connector messages: 0 passes, 1 is no w1 subsystem message, 2 does not
carry the request's sequence number. -/
def cnFltr (pReq : CnMsg) (cnmsg : CnMsgHdr) : ℕ :=
  if cnmsg.idx ≠ cnW1Idx ∨ cnmsg.val ≠ cnW1Val then 1
  else if cnmsg.seq ≠ pReq.seq then 2
  else 0

/-- `__CNMSG_OK`. -/
def cnmsgOk (w : WordSize) (s : CnState) : Bool :=
  decide (sizeofCnMsg + (cnMsgHdrAt s.recvBuf s.pCnmsg).len.toNat ≤ w.sizeT s.dtaLen)

/-- Move the ack and the data of a connector message to the front of the buffer. -/
def cnCompact (s : CnState) (cnmsg : CnMsgHdr) : CnState :=
  let buf := s.recvBuf.write s.offs (leBytes 4 cnmsg.ack.toNat)
  { s with
    recvBuf := buf.write (s.offs + 4) (buf.read (s.pCnmsg + sizeofCnMsg) cnmsg.len.toNat)
    offs := s.offs + 4 + cnmsg.len.toNat }

/-- One round of the loop over the connector chain. -/
def cnStep (w : WordSize) (pReq : CnMsg) (s : CnState) : CnState ⊕ CnState :=
  if cnmsgOk w s then
    let cnmsg := cnMsgHdrAt s.recvBuf s.pCnmsg
    let s' := if cnFltr pReq cnmsg = 0 ∧ 0 < cnmsg.len.toNat then cnCompact s cnmsg else s
    .inl { s' with
      dtaLen := s'.dtaLen - (sizeofCnMsg + cnmsg.len.toNat : ℕ)
      pCnmsg := s'.pCnmsg + sizeofCnMsg + cnmsg.len.toNat }
  else
    .inr s

/-! ### The w1 chain -/

/-- Cursor state of the loop over the w1 chain, with the callback's data. -/
structure W1State (σ : Type*) where
  recvBuf : Mem UInt8
  pAck : ℕ
  pW1msg : ℕ
  dtaLen : ℤ
  moreStat : W1msgMoreStat
  priv : σ

/-- The request `p_req` carries. -/
def w1Req (pReq : CnMsg) : W1NetlinkMsg := w1MsgAt (ofBytes pReq.data) 0

/-- The filter on w1 messages: 0 passes, 1 is of another type than the request, 2 is from
another master or slave. -/
def w1Fltr (w1req w1msg : W1NetlinkMsg) : ℕ :=
  if w1msg.type ≠ w1req.type then 1
  else if w1req.type = w1MasterCmd ∧ w1msg.mstId ≠ w1req.mstId ∨
      w1req.type = w1SlaveCmd ∧ w1msg.id ≠ w1req.id then 2
  else 0

/-- `__ACK_W1MSG_OK`. -/
def ackW1msgOk {σ : Type*} (w : WordSize) (s : W1State σ) : Bool :=
  decide (4 + sizeofW1NetlinkMsg + w1MsgLenAt s.recvBuf s.pW1msg ≤ w.sizeT s.dtaLen)

/-- One round of the loop over the w1 chain. -/
def w1Step {σ : Type*} (w : WordSize) (pReq : CnMsg) (recvCb : RecvW1msgCb σ)
    (s : W1State σ) : W1State σ ⊕ W1State σ :=
  if ackW1msgOk w s then
    let w1msg := w1MsgAt s.recvBuf s.pW1msg
    let r := if w1Fltr (w1Req pReq) w1msg = 0 ∧ s.moreStat ≠ .noMore then
        recvCb s.priv w1msg (u32At s.recvBuf s.pAck = ackStatVal)
      else (s.moreStat, s.priv)
    .inl { s with
      dtaLen := s.dtaLen - (4 + sizeofW1NetlinkMsg + w1msg.len : ℕ)
      pAck := s.pAck + 4 + sizeofW1NetlinkMsg + w1msg.len
      pW1msg := s.pW1msg + sizeofW1NetlinkMsg + w1msg.len + 4
      moreStat := r.1
      priv := r.2 }
  else
    .inr s

/-! ### The receive loop -/

/-- What the receive loop keeps from one datagram to the next. -/
structure RecvState (σ : Type*) where
  recvBuf : Mem UInt8
  moreStat : W1msgMoreStat
  priv : σ

section Recv

variable {σ : Type*} (w : WordSize) (fuel : ℕ) (pReq : CnMsg) (recvCb : RecvW1msgCb σ)

/-- Receive one datagram into the buffer and unpack it there. -/
def recvDatagram (bs : List UInt8) (s : RecvState σ) :
    Option (Except LrErrc (RecvState σ)) :=
  let dta := bs.take maxW1NetlinkMsgSz
  match Loop.run nlStep fuel ⟨s.recvBuf.write 0 dta, 0, dta.length, 0⟩ with
  | none => none
  | some (.error e) => some (.error e)
  | some (.ok nl) =>
    match Loop.run (cnStep w pReq) fuel ⟨nl.recvBuf, 0, nl.offs, 0⟩ with
    | none => none
    | some cn =>
      match Loop.run (w1Step w pReq recvCb) fuel
          ⟨cn.recvBuf, 0, 4, cn.offs, s.moreStat, s.priv⟩ with
      | none => none
      | some w1 => some (.ok ⟨w1.recvBuf, w1.moreStat, w1.priv⟩)

/-- The receive loop; `n_rcv_msgs` is an `unsigned int`. -/
def recvLoop : List RecvEvent → ℕ → RecvState σ → Option (LrErrc × σ)
  | [], _, _ => none
  | .pollTimeout :: _, nRcvMsgs, s =>
    if nRcvMsgs = 0 then some (.noResp, s.priv)
    else if s.moreStat = .moreReq then some (.noResp, s.priv)
    else some (.success, s.priv)
  | .pollError :: _, _, s => some (.commErr, s.priv)
  | .recvError :: _, _, s => some (.commErr, s.priv)
  | .datagram bs :: es, nRcvMsgs, s =>
    match recvDatagram w fuel pReq recvCb bs s with
    | none => none
    | some (.error e) => some (e, s.priv)
    | some (.ok s') => recvLoop es ((nRcvMsgs + 1) % 2 ^ 32) s'

/-- `recv_w1msg`. The buffer is uninitialised: `stale` is what it holds. -/
def recvW1msg (stale : Mem UInt8) (priv : σ) (es : List RecvEvent) : Option (LrErrc × σ) :=
  if pReq.data.length ≤ 0 then
    -- no response for no request
    some (.success, priv)
  else
    recvLoop w fuel pReq recvCb es 0 ⟨stale, .moreReq, priv⟩

end Recv

/-! ### The rule for callbacks -/

section Invariant

variable {σ : Type*} {w : WordSize} {fuel : ℕ} {pReq : CnMsg} {recvCb : RecvW1msgCb σ}
  {I : W1msgMoreStat → σ → Prop}

/-- A parse error is an error. -/
theorem run_nlStep_ne_success {s : NlState} {e : LrErrc}
    (h : Loop.run nlStep fuel s = some (.error e)) : e ≠ .success := by
  obtain ⟨s', -, hs'⟩ := Loop.run_invariant (I := fun _ => True) (fun _ _ _ _ => trivial)
    trivial h
  simp only [nlStep] at hs'
  split at hs'
  · split at hs'
    · cases hs'
    split at hs'
    · cases hs'
      rintro ⟨⟩
    split at hs'
    · split at hs' <;> cases hs'
    · cases hs'
      rintro ⟨⟩
  · cases hs'

variable (hcb : ∀ ms priv w1msg isStatus, ms ≠ .noMore → I ms priv →
  I (recvCb priv w1msg isStatus).1 (recvCb priv w1msg isStatus).2)

include hcb

/-- What every call of the callback keeps is kept by a datagram. The invariant is carried by the
w1 loop alone; the two other loops make no calls. -/
theorem recvDatagram_invariant {bs : List UInt8} {s s' : RecvState σ}
    (hs : I s.moreStat s.priv) (h : recvDatagram w fuel pReq recvCb bs s = some (.ok s')) :
    I s'.moreStat s'.priv := by
  simp only [recvDatagram] at h
  split at h
  · cases h
  · cases h
  split at h
  · cases h
  split at h
  · cases h
  next hrun =>
    cases h
    -- of the three loops only the last one calls the callback
    obtain ⟨t, hI, ht⟩ := Loop.run_invariant (I := fun t : W1State σ => I t.moreStat t.priv)
      (fun t t' hI ht => by
        simp only [w1Step] at ht
        split at ht
        · cases ht
          dsimp only
          split
          · next hcall => exact hcb _ _ _ _ hcall.2 hI
          · exact hI
        · cases ht) hs hrun
    rw [w1Step] at ht
    split at ht
    · cases ht
    · cases ht
      exact hI

/-- What every call of the callback keeps is kept by the receive loop; it returns success only
when the last answer did not require more. -/
theorem recvLoop_invariant {es : List RecvEvent} {n : ℕ} {s : RecvState σ} {ret : LrErrc}
    {priv' : σ} (hs : I s.moreStat s.priv)
    (h : recvLoop w fuel pReq recvCb es n s = some (ret, priv')) :
    ∃ ms, I ms priv' ∧ (ret = .success → ms ≠ .moreReq) := by
  induction es generalizing n s with
  | nil => cases h
  | cons e es ih =>
    cases e with
    | pollTimeout =>
      rw [recvLoop] at h
      split at h
      · cases h
        exact ⟨_, hs, by rintro ⟨⟩⟩
      split at h
      · cases h
        exact ⟨_, hs, by rintro ⟨⟩⟩
      · next hms =>
        cases h
        exact ⟨_, hs, fun _ => hms⟩
    | pollError =>
      cases h
      exact ⟨_, hs, by rintro ⟨⟩⟩
    | recvError =>
      cases h
      exact ⟨_, hs, by rintro ⟨⟩⟩
    | datagram bs =>
      rw [recvLoop] at h
      split at h
      · cases h
      · next e hd =>
        cases h
        -- only the netlink loop ends a datagram with an error
        refine ⟨_, hs, fun hsucc => absurd hsucc ?_⟩
        simp only [recvDatagram] at hd
        split at hd
        · cases hd
        · next hrun =>
          cases hd
          exact run_nlStep_ne_success hrun
        split at hd
        · cases hd
        split at hd <;> cases hd
      · next s' hd => exact ih (recvDatagram_invariant hcb hs hd) h

/-- **The rule for callbacks.** What holds at the start and is kept by every call of the
callback holds of the data that `recv_w1msg` leaves behind, along with the last answer of the
callback; the result is success only when that answer did not require more. -/
theorem recvW1msg_invariant {stale : Mem UInt8} {priv priv' : σ} {es : List RecvEvent}
    {ret : LrErrc} (hreq : 0 < pReq.data.length) (hs : I .moreReq priv)
    (h : recvW1msg w fuel pReq recvCb stale priv es = some (ret, priv')) :
    ∃ ms, I ms priv' ∧ (ret = .success → ms ≠ .moreReq) := by
  rw [recvW1msg, if_neg (by omega)] at h
  exact recvLoop_invariant hcb (s := ⟨stale, .moreReq, priv⟩) hs h

end Invariant

end Librasp
