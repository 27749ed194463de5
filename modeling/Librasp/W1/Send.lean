import Librasp.W1.Recv

/-!
# `send_recv_w1msg`: sending a request

A request is one netlink message of type `NLMSG_DONE` that holds one connector message, whose data
is the w1 message of the caller. `fillSendBuf` is what the code stores in `send_buf`;
`fillSendBuf_read` reads the datagram off it as the headers in front of the w1 message.

The sequence number is a 32-bit counter of the handle reduced modulo `SEQ_RANGE`. A run of
requests on one handle is a list of calls (`sendAll`); the `k`-th request sent carries `k % 2 ^ 32
% SEQ_RANGE` (`getElem_sendAll_seq`), so a sequence number comes back too early from the first
request on that is sent after the counter has wrapped around.

* `IoEnv` is what the system does with a call: what the buffers on the stack hold, whether
  `send()` succeeds, and what the receive loop meets.
* A message that is too long for `send_buf` is refused and takes no sequence number
  (`sendW1msg_cases`).
* Behind the headers and the message `send_buf` holds zeros, up to the alignment that is sent.

**Main result.** `seqsDistinct_iff`: the numbers of a run are as they should be if and only if no
more than `2 ^ 32` requests are sent.
-/

namespace Librasp

/-! ### The model -/

/-- `SEQ_RANGE`. -/
def seqRange : UInt32 := ackStatVal - 1

/-- `w1_hndl_t`, apart from the socket. -/
structure W1Hndl where
  seq : UInt32
  deriving DecidableEq, Repr

/-- The handle after `w1_init`. -/
def w1Init : W1Hndl := ⟨0⟩

/-- The fields that `send_recv_w1msg` assigns, in the order of their offsets; they reach up to
`flags` of the connector header, which is left as `memset` made it. -/
def nlmsgFields (nlmsgLen w1msgLen : ℕ) (seq : UInt32) : List (List UInt8) :=
  [leBytes 4 nlmsgLen, leBytes 2 nlmsgDone.toNat, leBytes 2 0, leBytes 4 seq.toNat, leBytes 4 0,
    leBytes 4 cnW1Idx.toNat, leBytes 4 cnW1Val.toNat, leBytes 4 seq.toNat,
    leBytes 4 ackStatVal.toNat, leBytes 2 w1msgLen]

/-- The contents of `send_buf`: zeros, the header fields, the w1 message. -/
def fillSendBuf (sendBuf : Mem UInt8) (seq : UInt32) (w1msg : List UInt8) : Mem UInt8 :=
  let nlmsgLen := nlmsgLength (sizeofCnMsg + w1msg.length)
  ((sendBuf.write 0 (List.replicate (nlmsgAlign nlmsgLen) 0)).writeAll
    (Mem.layout 0 (nlmsgFields nlmsgLen w1msg.length seq))).write
      (nlmsgHdrlen + sizeofCnMsg) w1msg

/-- What the system does with a call: what the uninitialised buffers hold, whether `send()`
succeeds, and what the receive loop meets. -/
structure IoEnv where
  sendBuf : Mem UInt8
  recvBuf : Mem UInt8
  sendOk : Bool
  events : List RecvEvent

/-- What comes of a call of `send_recv_w1msg`. -/
structure SendRecv (σ : Type*) where
  hndl : W1Hndl
  /-- The datagram passed to `send()`, with the connector message in it. -/
  sent : Option (List UInt8 × CnMsg)
  /-- The result with the callback's data, `none` while the function is still waiting. -/
  ret : Option (LrErrc × σ)

/-- The first half of `send_recv_w1msg`, up to and including the call of `send()`. -/
def sendW1msg (hndl : W1Hndl) (pW1msg sendBuf : Mem UInt8) :
    Except LrErrc (List UInt8 × CnMsg) × W1Hndl :=
  let w1msgLen := sizeofW1NetlinkMsg + w1MsgLenAt pW1msg 0
  let nlmsgLen := nlmsgLength (sizeofCnMsg + w1msgLen)
  if maxW1NetlinkMsgSz < nlmsgAlign nlmsgLen then (.error .msgSize, hndl)
  else
    let buf := fillSendBuf sendBuf (hndl.seq % seqRange) (pW1msg.read 0 w1msgLen)
    (.ok (buf.read 0 (nlmsgAlign nlmsgLen), cnMsgAt buf nlmsgHdrlen), ⟨hndl.seq + 1⟩)

/-- `send_recv_w1msg`. -/
def sendRecvW1msg {σ : Type*} (w : WordSize) (fuel : ℕ) (hndl : W1Hndl) (pW1msg : Mem UInt8)
    (recvCb : RecvW1msgCb σ) (priv : σ) (env : IoEnv) : SendRecv σ :=
  match sendW1msg hndl pW1msg env.sendBuf with
  | (.error e, hndl') => ⟨hndl', none, some (e, priv)⟩
  | (.ok sent, hndl') =>
    ⟨hndl', some sent,
      if env.sendOk then recvW1msg w fuel sent.2 recvCb env.recvBuf priv env.events
      else some (.commErr, priv)⟩

/-! ### The datagram -/

/-- The connector message of a request. -/
def requestMsg (seq : UInt32) (w1msg : List UInt8) (h : w1msg.length < 65536) : CnMsg :=
  ⟨cnW1Idx, cnW1Val, seq, ackStatVal, 0, w1msg, h⟩

/-- The w1 message in the connector message of a request. -/
theorem w1Req_requestMsg (seq : UInt32) (w1msg : W1NetlinkMsg)
    (h : w1msg.toBytes.length < 65536) : w1Req (requestMsg seq w1msg.toBytes h) = w1msg :=
  w1msg.w1MsgAt_toBytes

/-- The netlink header of a request. -/
def requestHdr (seq : UInt32) (w1msg : List UInt8) : Nlmsghdr :=
  ⟨.ofNat (nlmsgLength (sizeofCnMsg + w1msg.length)), nlmsgDone, 0, seq, 0⟩

/-- The datagram of a request: the two headers, the w1 message, and zeros up to the
alignment. -/
def requestBytes (seq : UInt32) (w1msg : List UInt8) (h : w1msg.length < 65536) : List UInt8 :=
  let n := nlmsgLength (sizeofCnMsg + w1msg.length)
  (requestHdr seq w1msg).toBytes ++ ((requestMsg seq w1msg h).toBytes ++
    List.replicate (nlmsgAlign n - n) 0)

section FillSendBuf

variable (sendBuf : Mem UInt8) (seq : UInt32) {w1msg : List UInt8}

private theorem length_nlmsgFields (nlmsgLen w1msgLen : ℕ) :
    (nlmsgFields nlmsgLen w1msgLen seq).flatten.length = 34 := by
  simp [nlmsgFields]

/-- Behind the assigned fields, `send_buf` holds zeros wherever the w1 message does not
reach. -/
private theorem fillSendBuf_apply_zero {x : ℕ} (hx : 34 ≤ x)
    (hx' : x < nlmsgHdrlen + sizeofCnMsg ∨ nlmsgHdrlen + sizeofCnMsg + w1msg.length ≤ x)
    (hlt : x < nlmsgAlign (nlmsgLength (sizeofCnMsg + w1msg.length))) :
    fillSendBuf sendBuf seq w1msg x = 0 := by
  have hdata : fillSendBuf sendBuf seq w1msg x = _ :=
    hx'.elim (Mem.write_of_lt _ _) (Mem.write_of_ge _)
  rw [hdata, Mem.writeAll_apply_of_forall_not_mem]
  · have hx0 : x < (List.replicate (nlmsgAlign (nlmsgLength (sizeofCnMsg + w1msg.length)))
        (0 : UInt8)).length := by rwa [List.length_replicate]
    rw [Mem.write, if_neg (Nat.not_lt_zero x), Nat.sub_zero, List.getD_eq_getElem _ _ hx0,
      List.getElem_replicate]
  · intro b hb
    have hend := (Mem.mem_layout hb).2
    rw [length_nlmsgFields] at hend
    omega

private theorem fillSendBuf_read_zeros {a k : ℕ} (ha : 34 ≤ a)
    (hk : a + k ≤ nlmsgAlign (nlmsgLength (sizeofCnMsg + w1msg.length)))
    (hout : a + k ≤ 36 ∨ 36 + w1msg.length ≤ a) :
    (fillSendBuf sendBuf seq w1msg).read a k = List.replicate k 0 := by
  refine List.ext_getElem (by simp) fun i h₁ h₂ => ?_
  have hi : i < k := by simpa using h₁
  have h36 : nlmsgHdrlen + sizeofCnMsg = 36 := rfl
  rw [Mem.getElem_read, List.getElem_replicate]
  exact fillSendBuf_apply_zero sendBuf seq (by omega) (by omega) (by omega)

private theorem fillSendBuf_read_fields :
    (fillSendBuf sendBuf seq w1msg).read 0 34 =
      (nlmsgFields (nlmsgLength (sizeofCnMsg + w1msg.length)) w1msg.length seq).flatten := by
  have hlayout := Mem.read_writeAll_layout
    (sendBuf.write 0 (List.replicate (nlmsgAlign (nlmsgLength (sizeofCnMsg + w1msg.length))) 0)) 0
    (nlmsgFields (nlmsgLength (sizeofCnMsg + w1msg.length)) w1msg.length seq)
  rw [length_nlmsgFields] at hlayout
  exact (Mem.read_write_of_disjoint _ (.inl (by decide))).trans hlayout

private theorem toBytes_requestHdr (hlen : w1msg.length < 65536) :
    (requestHdr seq w1msg).toBytes =
      leBytes 4 (nlmsgLength (sizeofCnMsg + w1msg.length)) ++ (leBytes 2 nlmsgDone.toNat ++
        (leBytes 2 0 ++ (leBytes 4 seq.toNat ++ leBytes 4 0))) := by
  have hn : nlmsgLength (sizeofCnMsg + w1msg.length) < 2 ^ 32 := by
    simp only [nlmsgLength, sizeofCnMsg, nlmsgHdrlen]
    omega
  have hmod : (UInt32.ofNat (nlmsgLength (sizeofCnMsg + w1msg.length))).toNat = _ :=
    UInt32.toNat_ofNat_of_lt' hn
  simp only [requestHdr, Nlmsghdr.toBytes, hmod]
  rfl

private theorem toBytes_requestMsg (hlen : w1msg.length < 65536) :
    (requestMsg seq w1msg hlen).toBytes = leBytes 4 cnW1Idx.toNat ++
      (leBytes 4 cnW1Val.toNat ++ (leBytes 4 seq.toNat ++ (leBytes 4 ackStatVal.toNat ++
        (leBytes 2 w1msg.length ++ (List.replicate 2 0 ++ w1msg))))) := by
  have hflags : leBytes 2 (0 : UInt16).toNat = List.replicate 2 0 := by decide
  rw [CnMsg.toBytes, CnMsg.toNat_hdr_len]
  simp only [requestMsg, hflags]

/-- What is sent of `send_buf` is the datagram of the request: the fields that were assigned, the
w1 message behind them, and zeros up to the alignment. -/
theorem fillSendBuf_read (hlen : w1msg.length < 65536) :
    (fillSendBuf sendBuf seq w1msg).read 0
        (nlmsgAlign (nlmsgLength (sizeofCnMsg + w1msg.length))) =
      requestBytes seq w1msg hlen := by
  obtain ⟨n, hndef⟩ : ∃ n, n = nlmsgLength (sizeofCnMsg + w1msg.length) := ⟨_, rfl⟩
  have hn : n = 34 + 2 + w1msg.length := by
    simp only [hndef, nlmsgLength, sizeofCnMsg, nlmsgHdrlen]
    omega
  have halign : nlmsgAlign n = 34 + 2 + w1msg.length + (nlmsgAlign n - n) := by
    have := le_nlmsgAlign n
    omega
  have hdata : (fillSendBuf sendBuf seq w1msg).read 36 w1msg.length = w1msg :=
    Mem.read_write_self _ _ _
  -- the fields, the flags, the w1 message, and what aligns it
  have hsplit : (fillSendBuf sendBuf seq w1msg).read 0 (nlmsgAlign n) =
      (nlmsgFields n w1msg.length seq).flatten ++ List.replicate 2 0 ++ w1msg ++
        List.replicate (nlmsgAlign n - n) 0 := by
    conv_lhs => rw [halign]
    rw [Mem.read_add, Mem.read_add, Mem.read_add, fillSendBuf_read_fields, ← hndef,
      fillSendBuf_read_zeros sendBuf seq (by omega) (hndef ▸ by omega) (by omega)]
    simp only [Nat.zero_add, Nat.reduceAdd]
    rw [hdata, fillSendBuf_read_zeros sendBuf seq (by omega) (hndef ▸ by omega) (by omega)]
  rw [requestBytes, ← hndef, hsplit, toBytes_requestHdr seq hlen, toBytes_requestMsg seq hlen,
    ← hndef]
  simp [nlmsgFields]

/-- The connector message in `send_buf`, which the receiving side takes for the request. -/
theorem cnMsgAt_fillSendBuf (hlen : w1msg.length < 65536) :
    cnMsgAt (fillSendBuf sendBuf seq w1msg) nlmsgHdrlen = requestMsg seq w1msg hlen := by
  have hread := fillSendBuf_read sendBuf seq hlen
  have hn := le_nlmsgAlign (nlmsgLength (sizeofCnMsg + w1msg.length))
  have hdrop := congrArg (List.drop nlmsgHdrlen) hread
  rw [Mem.drop_read, Nat.zero_add, requestBytes,
    List.drop_left' (Nlmsghdr.length_toBytes _)] at hdrop
  have hhdr : cnMsgHdrAt (fillSendBuf sendBuf seq w1msg) nlmsgHdrlen =
      (requestMsg seq w1msg hlen).hdr := by
    rw [← CnMsg.cnMsgHdrAt_toBytes, ← hdrop]
    refine (cnMsgHdrAt_ofBytes_read ?_).symm
    simp only [nlmsgLength] at hn ⊢
    omega
  have hdata : (fillSendBuf sendBuf seq w1msg).read (nlmsgHdrlen + sizeofCnMsg)
      w1msg.length = w1msg := Mem.read_write_self _ _ _
  have hlen' : (requestMsg seq w1msg hlen).hdr.len.toNat = w1msg.length :=
    CnMsg.toNat_hdr_len _
  simp only [cnMsgAt, hhdr, hlen', hdata]
  rfl

end FillSendBuf

/-- A call either refuses a message that is too long for `send_buf`, or sends the datagram of
the request and moves the counter on. -/
theorem sendW1msg_cases (hndl : W1Hndl) (pW1msg sendBuf : Mem UInt8) {w1msg : List UInt8}
    (hread : pW1msg.read 0 (sizeofW1NetlinkMsg + w1MsgLenAt pW1msg 0) = w1msg) :
    maxW1NetlinkMsgSz < nlmsgAlign (nlmsgLength (sizeofCnMsg + w1msg.length)) ∧
        sendW1msg hndl pW1msg sendBuf = (.error .msgSize, hndl) ∨
      nlmsgAlign (nlmsgLength (sizeofCnMsg + w1msg.length)) ≤ maxW1NetlinkMsgSz ∧
        ∃ h : w1msg.length < 65536, sendW1msg hndl pW1msg sendBuf =
          (.ok (requestBytes (hndl.seq % seqRange) w1msg h,
            requestMsg (hndl.seq % seqRange) w1msg h), ⟨hndl.seq + 1⟩) := by
  have hlen : sizeofW1NetlinkMsg + w1MsgLenAt pW1msg 0 = w1msg.length := by
    rw [← hread, Mem.length_read]
  rw [hlen] at hread
  simp only [sendW1msg, hlen, hread]
  split
  · next hgt => exact .inl ⟨hgt, rfl⟩
  · next hle =>
    have h : w1msg.length < 65536 := by
      have := le_nlmsgAlign (nlmsgLength (sizeofCnMsg + w1msg.length))
      simp only [nlmsgLength, sizeofCnMsg, maxW1NetlinkMsgSz, nlmsgHdrlen] at this hle
      omega
    refine .inr ⟨not_lt.mp hle, h, ?_⟩
    rw [fillSendBuf_read _ _ h, cnMsgAt_fillSendBuf _ _ h]

/-- The rule for callbacks, for a request and its replies. -/
theorem sendRecvW1msg_invariant {σ : Type*} {w : WordSize} {fuel : ℕ} {hndl : W1Hndl}
    {pW1msg : Mem UInt8} {recvCb : RecvW1msgCb σ} {priv priv' : σ} {env : IoEnv} {ret : LrErrc}
    {I : W1msgMoreStat → σ → Prop}
    (hcb : ∀ ms priv w1msg isStatus, ms ≠ .noMore → I ms priv →
      I (recvCb priv w1msg isStatus).1 (recvCb priv w1msg isStatus).2)
    (hs : I .moreReq priv)
    (h : (sendRecvW1msg w fuel hndl pW1msg recvCb priv env).ret = some (ret, priv')) :
    ∃ ms, I ms priv' ∧ (ret = .success → ms ≠ .moreReq) := by
  obtain ⟨-, herr⟩ | ⟨-, hlen, hok⟩ := sendW1msg_cases hndl pW1msg env.sendBuf rfl
  · simp only [sendRecvW1msg, herr] at h
    cases h
    exact ⟨_, hs, by rintro ⟨⟩⟩
  · simp only [sendRecvW1msg, hok] at h
    split at h
    · refine recvW1msg_invariant hcb ?_ hs h
      simp [requestMsg, sizeofW1NetlinkMsg]
    · cases h
      exact ⟨_, hs, by rintro ⟨⟩⟩

/-! ### Sequence numbers -/

/-- The requests sent in a run of calls on a handle, in order. A call passes a w1 message and
meets some contents of `send_buf`; a call with a message that is too long sends nothing. -/
def sendAll : W1Hndl → List (Mem UInt8 × Mem UInt8) → List CnMsg
  | _, [] => []
  | hndl, (pW1msg, sendBuf) :: calls =>
    match sendW1msg hndl pW1msg sendBuf with
    | (.error _, hndl') => sendAll hndl' calls
    | (.ok (_, req), hndl') => req :: sendAll hndl' calls

/-- The `k`-th request of a run carries the reduced counter. Calls that send nothing take no
number and are not counted. -/
theorem getElem_sendAll_seq (hndl : W1Hndl) (calls : List (Mem UInt8 × Mem UInt8)) {k : ℕ}
    (hk : k < (sendAll hndl calls).length) :
    (sendAll hndl calls)[k].seq.toNat = (hndl.seq.toNat + k) % 2 ^ 32 % seqRange.toNat := by
  induction calls generalizing hndl k with
  | nil => exact absurd hk (Nat.not_lt_zero k)
  | cons call calls ih =>
    obtain ⟨pW1msg, sendBuf⟩ := call
    -- a call that sends nothing leaves the counter where it was
    obtain ⟨-, herr⟩ | ⟨-, h, hok⟩ := sendW1msg_cases hndl pW1msg sendBuf rfl
    · have hcons : sendAll hndl ((pW1msg, sendBuf) :: calls) = sendAll hndl calls := by
        rw [sendAll, herr]
      simp only [hcons] at hk ⊢
      exact ih hndl hk
    · have hcons : sendAll hndl ((pW1msg, sendBuf) :: calls) =
          requestMsg (hndl.seq % seqRange) _ h :: sendAll ⟨hndl.seq + 1⟩ calls := by
        rw [sendAll, hok]
      simp only [hcons] at hk ⊢
      cases k with
      | zero =>
        have hseq : (requestMsg (hndl.seq % seqRange) _ h).seq = hndl.seq % seqRange := rfl
        rw [List.getElem_cons_zero, hseq, UInt32.toNat_mod, Nat.add_zero,
          Nat.mod_eq_of_lt hndl.seq.toNat_lt]
      | succ k =>
        have hk' : k < (sendAll ⟨hndl.seq + 1⟩ calls).length := by simpa using hk
        have hadd : (hndl.seq + 1).toNat = (hndl.seq.toNat + 1) % 2 ^ 32 := UInt32.toNat_add _ _
        rw [List.getElem_cons_succ, ih _ hk', hadd, Nat.mod_add_mod, Nat.add_assoc,
          Nat.add_comm 1 k]

/-- What a run of requests is to keep: every sequence number is in range, and any two requests
fewer than `SEQ_RANGE` sends apart carry different ones, so that no reply that repeats the
sequence number of the earlier passes the filter of the later. -/
def SeqsDistinct (reqs : List CnMsg) : Prop :=
  (∀ req ∈ reqs, req.seq < seqRange) ∧
    ∀ (i j : ℕ) (hij : i < j) (hj : j < reqs.length), j < i + seqRange.toNat →
      reqs[i].seq ≠ reqs[j].seq ∧
        ∀ hdr : CnMsgHdr, hdr.seq = reqs[i].seq → cnFltr reqs[j] hdr ≠ 0

/-- A connector message with another sequence number than the request's is filtered out. -/
theorem cnFltr_ne_zero {pReq : CnMsg} {hdr : CnMsgHdr} (h : hdr.seq ≠ pReq.seq) :
    cnFltr pReq hdr ≠ 0 := by
  rw [cnFltr, if_pos h]
  split <;> decide

private theorem toNat_seqRange : seqRange.toNat = 4294967294 := rfl

private theorem seq_lt (hndl : W1Hndl) (calls : List (Mem UInt8 × Mem UInt8)) :
    ∀ req ∈ sendAll hndl calls, req.seq < seqRange := by
  intro req hreq
  obtain ⟨k, hk, rfl⟩ := List.getElem_of_mem hreq
  rw [UInt32.lt_iff_toNat_lt, getElem_sendAll_seq]
  exact Nat.mod_lt _ (by decide)

/-- Up to the wrap-around of the counter, sequence numbers come back only after `SEQ_RANGE`
sends. -/
theorem seqsDistinct_of_length_le {calls : List (Mem UInt8 × Mem UInt8)}
    (h : (sendAll w1Init calls).length ≤ 2 ^ 32) : SeqsDistinct (sendAll w1Init calls) := by
  refine ⟨seq_lt _ _, fun i j hij hj hwindow => ?_⟩
  have hne : (sendAll w1Init calls)[i].seq ≠ (sendAll w1Init calls)[j].seq := by
    have hinit : w1Init.seq.toNat = 0 := rfl
    rw [Ne, ← UInt32.toNat_inj, getElem_sendAll_seq, getElem_sendAll_seq, hinit, Nat.zero_add,
      Nat.zero_add, Nat.mod_eq_of_lt (hij.trans (hj.trans_le h)),
      Nat.mod_eq_of_lt (hj.trans_le h)]
    intro hmod
    -- equal remainders put the two a multiple of `SEQ_RANGE` apart
    have hdvd : seqRange.toNat ∣ j - i := (Nat.modEq_iff_dvd' hij.le).mp hmod
    have hle := Nat.le_of_dvd (by omega) hdvd
    omega
  exact ⟨hne, fun hdr hhdr => cnFltr_ne_zero (hhdr ▸ hne)⟩

/-- The request that the counter is first spent for a second time on carries the number of
the request two sends before. -/
theorem not_seqsDistinct_of_lt_length {calls : List (Mem UInt8 × Mem UInt8)}
    (h : 2 ^ 32 < (sendAll w1Init calls).length) : ¬ SeqsDistinct (sendAll w1Init calls) := by
  rintro ⟨-, hdistinct⟩
  have hnum : (2 : ℕ) ^ 32 = 4294967296 := by norm_num
  obtain ⟨hne, -⟩ := hdistinct (2 ^ 32 - 2) (2 ^ 32) (by omega) h
    (by rw [toNat_seqRange]; omega)
  refine hne (UInt32.toNat_inj.mp ?_)
  rw [getElem_sendAll_seq, getElem_sendAll_seq, toNat_seqRange]
  rfl

/-- **Sequence numbers.** The sequence numbers of a run of requests on a fresh handle are as
they should be if and only if no more than `2 ^ 32` requests are sent. -/
theorem seqsDistinct_iff (calls : List (Mem UInt8 × Mem UInt8)) :
    SeqsDistinct (sendAll w1Init calls) ↔ (sendAll w1Init calls).length ≤ 2 ^ 32 :=
  ⟨fun h => not_lt.mp fun hlt => not_seqsDistinct_of_lt_length hlt h, seqsDistinct_of_length_le⟩

/-- A run that lists the masters over and over. -/
def listings (n : ℕ) : List (Mem UInt8 × Mem UInt8) :=
  List.replicate n (ofBytes [w1ListMasters], fun _ => 0)

theorem length_sendAll_listings (hndl : W1Hndl) (n : ℕ) :
    (sendAll hndl (listings n)).length = n := by
  induction n generalizing hndl with
  | zero => rfl
  | succ n ih =>
    obtain ⟨-, herr⟩ | ⟨-, h, hok⟩ :=
      sendW1msg_cases hndl (ofBytes [w1ListMasters]) (fun _ => 0) rfl
    · cases herr
    · rw [listings, List.replicate_succ, sendAll, hok]
      exact congrArg (· + 1) (ih _)

/-- One request more than the counter has values repeats a sequence number at once. -/
theorem not_seqsDistinct_listings : ¬ SeqsDistinct (sendAll w1Init (listings (2 ^ 32 + 1))) :=
  not_seqsDistinct_of_lt_length (by rw [length_sendAll_listings]; exact Nat.lt_succ_self _)

end Librasp
