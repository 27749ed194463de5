import Librasp.W1.Recv

/-!
# A reference parser for received datagrams

The reference parser takes a datagram apart layer by layer, each layer into a list of its own:
`nlChain` is the concatenated payload of the netlink chain, `keptCnMsgs` are the connector
messages in it that pass the filter, and `w1Records` the w1 messages of the re-framed connector
data, each behind an ack. `records` are the w1 messages that pass both filters with their
`is_status` flags, and `deliver` hands them to the callback until it answers `w1msg_no_more`.
There is no buffer, hence nothing stale to read.

`recvW1msg` parses in place. It computes the same outcome and calls the callback in the same way
(`recvW1msg_eq_refRecv`): at every round of the two compaction loops the write position is at or
before the cursor, so no unread byte is overwritten (`NlRel`, `CnRel`), and every test that would
look at a length field beyond the remaining bytes fails whatever it finds there.

* For each of the three loops there is a relation between its cursor states and what the reference
  still has to do, a lemma that one round follows the reference (`nlStep_refines`,
  `cnStep_refines`, `w1Step_refines`), and one for the loop, by the refinement rule of `Loop`.
* `recvDatagram_eq` puts the loops together for one datagram, whatever the buffer held before.

**Main result.** `recvW1msg_eq_reference`: the same outcome, and the callback is called on the
same messages in the same order.
-/

namespace Librasp

/-! ### The layers -/

/-- The length field of the netlink message at the front. -/
def nlLen (bs : List UInt8) : ℕ := (nlmsghdrAt (ofBytes bs) 0).nlmsgLen.toNat

/-- The concatenated payload of a netlink chain, or the error it raises; `none` when a no-op
message is met. -/
def nlChain (bs : List UInt8) : Option (Except LrErrc (List UInt8)) :=
  if nlmsgHdrlen ≤ bs.length ∧ nlmsgHdrlen ≤ nlLen bs ∧ nlLen bs ≤ bs.length then
    if (nlmsghdrAt (ofBytes bs) 0).nlmsgType = nlmsgNoop then none
    else if (nlmsghdrAt (ofBytes bs) 0).nlmsgType = nlmsgError then some (.error .protoErr)
    else if (nlmsghdrAt (ofBytes bs) 0).nlmsgType = nlmsgDone then
      some (.ok ((bs.take (nlLen bs)).drop nlmsgHdrlen))
    else if (nlmsghdrAt (ofBytes bs) 0).nlmsgFlags &&& nlmFMulti ≠ 0 then
      (nlChain (bs.drop (nlmsgAlign (nlLen bs)))).map
        (Except.map ((bs.take (nlLen bs)).drop nlmsgHdrlen ++ ·))
    else some (.error .badMsg)
  else some (.ok [])
termination_by bs.length
decreasing_by
  rename_i h _ _ _ _
  have := le_nlmsgAlign (nlLen bs)
  rw [nlmsgHdrlen] at h
  rw [List.length_drop]
  omega

/-- A payload is no longer than its datagram. -/
theorem length_nlChain_le {bs payload : List UInt8} (h : nlChain bs = some (.ok payload)) :
    payload.length ≤ bs.length := by
  induction bs using nlChain.induct generalizing payload with
  | case1 bs hok hnoop => simp [nlChain, hok, hnoop] at h
  | case2 bs hok hnoop herr => simp [nlChain, hok, herr] at h
  | case3 bs hok hnoop herr hdone =>
    rw [nlChain, if_pos hok, if_neg hnoop, if_neg herr, if_pos hdone] at h
    cases h
    simp
  | case4 bs hok hnoop herr hdone hmulti ih =>
    rw [nlChain, if_pos hok, if_neg hnoop, if_neg herr, if_neg hdone, if_pos hmulti] at h
    rcases hrest : nlChain (bs.drop (nlmsgAlign (nlLen bs))) with _ | _ | rest
    · simp [hrest] at h
    · simp [hrest, Except.map] at h
    · have hle := ih hrest
      have halign := le_nlmsgAlign (nlLen bs)
      simp only [hrest, Option.map_some, Except.map, Option.some.injEq, Except.ok.injEq] at h
      rw [← h]
      rw [List.length_drop] at hle
      simp only [List.length_append, List.length_drop, List.length_take]
      omega
  | case5 bs hok hnoop herr hdone hmulti =>
    rw [nlChain, if_pos hok, if_neg hnoop, if_neg herr, if_neg hdone, if_neg hmulti] at h
    simp at h
  | case6 bs hok =>
    rw [nlChain, if_neg hok] at h
    cases h
    simp

/-- The connector messages of a payload that pass the filter and carry data. -/
def keptCnMsgs (pReq : CnMsg) (payload : List UInt8) : List CnMsg :=
  (cnParser.chain payload).filter fun c => cnFltr pReq c.hdr = 0 ∧ 0 < c.data.length

/-- The frame the second layer gives a connector message: its ack, then its data. -/
def ackFrame (c : CnMsg) : List UInt8 := leBytes 4 c.ack.toNat ++ c.data

/-- The frames take up no more room than the payload. -/
theorem length_ackFrames_le (pReq : CnMsg) (payload : List UInt8) :
    ((keptCnMsgs pReq payload).flatMap ackFrame).length ≤ payload.length := by
  have hsub : ((keptCnMsgs pReq payload).map fun c => sizeofCnMsg + c.data.length).sum ≤
      ((cnParser.chain payload).map fun c => sizeofCnMsg + c.data.length).sum :=
    (List.filter_sublist.map _).sum_le_sum (by simp)
  have hsum := RecordParser.sum_size_chain_le (fun c : CnMsg => sizeofCnMsg + c.data.length)
    cnParser_size payload
  refine le_trans ?_ (hsub.trans hsum)
  rw [List.length_flatMap]
  refine List.sum_le_sum fun c _ => ?_
  rw [ackFrame, List.length_append, length_leBytes, sizeofCnMsg]
  omega

/-- The parser of one w1 message behind an ack. -/
def ackW1Parser : RecordParser UInt8 (UInt32 × W1NetlinkMsg) where
  parse bs :=
    if 4 + sizeofW1NetlinkMsg + w1MsgLenAt (ofBytes bs) 4 ≤ bs.length then
      some ((u32At (ofBytes bs) 0, w1MsgAt (ofBytes bs) 4),
        bs.drop (4 + sizeofW1NetlinkMsg + w1MsgLenAt (ofBytes bs) 4))
    else none
  shorter := by
    intro bs r rest h
    obtain ⟨hle, h⟩ := Option.ite_none_right_eq_some.mp h
    obtain ⟨-, rfl⟩ := Prod.mk.inj (Option.some.inj h)
    rw [sizeofW1NetlinkMsg] at hle ⊢
    rw [List.length_drop]
    omega

/-- What the callback is called with: the records that pass the w1 filter, each with the
`is_status` flag. -/
def w1Records (pReq : CnMsg) (recs : List (UInt32 × W1NetlinkMsg)) :
    List (W1NetlinkMsg × Bool) :=
  (recs.filter fun r => w1Fltr (w1Req pReq) r.2 = 0).map fun r =>
    (r.2, decide (r.1 = ackStatVal))

/-- The w1 records of a payload that answer a request. -/
def records (pReq : CnMsg) (payload : List UInt8) : List (W1NetlinkMsg × Bool) :=
  w1Records pReq (ackW1Parser.chain ((keptCnMsgs pReq payload).flatMap ackFrame))

/-- Hand records to the callback as long as it does not answer `w1msg_no_more`. -/
def deliver {σ : Type*} (recvCb : RecvW1msgCb σ) :
    List (W1NetlinkMsg × Bool) → W1msgMoreStat × σ → W1msgMoreStat × σ
  | [], s => s
  | r :: rs, s => if s.1 = .noMore then s else deliver recvCb rs (recvCb s.2 r.1 r.2)

section Reference

variable {σ : Type*} (pReq : CnMsg) (recvCb : RecvW1msgCb σ)

/-- The reference for the receive loop: `n_rcv_msgs`, the pending status and the callback's
data are all the state there is. -/
def refLoop : List RecvEvent → ℕ → W1msgMoreStat × σ → Option (LrErrc × σ)
  | [], _, _ => none
  | .pollTimeout :: _, nRcvMsgs, s =>
    if nRcvMsgs = 0 then some (.noResp, s.2)
    else if s.1 = .moreReq then some (.noResp, s.2)
    else some (.success, s.2)
  | .pollError :: _, _, s => some (.commErr, s.2)
  | .recvError :: _, _, s => some (.commErr, s.2)
  | .datagram bs :: es, nRcvMsgs, s =>
    match nlChain (bs.take maxW1NetlinkMsgSz) with
    | none => none
    | some (.error e) => some (e, s.2)
    | some (.ok payload) =>
      refLoop es ((nRcvMsgs + 1) % 2 ^ 32) (deliver recvCb (records pReq payload) s)

/-- The reference for `recv_w1msg`. -/
def refRecv (priv : σ) (es : List RecvEvent) : Option (LrErrc × σ) :=
  if pReq.data.length ≤ 0 then some (.success, priv)
  else refLoop pReq recvCb es 0 (.moreReq, priv)

end Reference

/-! ### The netlink chain in place -/

/-- A cursor state of the netlink loop stands for the payload collected so far and the bytes
still to be parsed. The write position is at or before the cursor. -/
def NlRel (s : NlState) (t : List UInt8 × List UInt8) : Prop :=
  s.offs ≤ s.pNlmsg ∧ t.1 = s.recvBuf.read 0 s.offs ∧
    t.2 = s.recvBuf.read s.pNlmsg s.dtaLen.toNat

/-- The outcome the reference gives a state of the netlink loop. -/
def nlRefOut (t : List UInt8 × List UInt8) : Option (Except LrErrc (List UInt8)) :=
  (nlChain t.2).map (Except.map (t.1 ++ ·))

/-- Outcomes that agree: the same error, or the payload at the front of the buffer. -/
def NlOut (r : Except LrErrc NlState) (r' : Option (Except LrErrc (List UInt8))) : Prop :=
  r' = some (r.map fun s => s.recvBuf.read 0 s.offs)

section NlCompact

variable {s : NlState} {len : ℕ}

theorem nlCompact_pNlmsg : (nlCompact s len).pNlmsg = s.pNlmsg := by
  unfold nlCompact
  split <;> rfl

theorem nlCompact_dtaLen : (nlCompact s len).dtaLen = s.dtaLen := by
  unfold nlCompact
  split <;> rfl

theorem nlCompact_offs : (nlCompact s len).offs = s.offs + (len - nlmsgHdrlen) := by
  unfold nlCompact
  split
  · rfl
  · omega

/-- The compacted payload is appended to what is at the front already. -/
theorem nlCompact_read_front :
    (nlCompact s len).recvBuf.read 0 (nlCompact s len).offs =
      s.recvBuf.read 0 s.offs ++
        s.recvBuf.read (s.pNlmsg + nlmsgHdrlen) (len - nlmsgHdrlen) := by
  rw [nlCompact_offs]
  unfold nlCompact
  split
  · have := Mem.read_write_append s.recvBuf 0 s.offs
      (s.recvBuf.read (s.pNlmsg + nlmsgHdrlen) (len - nlmsgHdrlen))
    simpa using this
  · next h => simp [Nat.sub_eq_zero_of_le (Nat.le_of_not_lt h)]

/-- Compaction leaves everything behind the current message alone. -/
theorem nlCompact_read_rest {a n : ℕ} (hoffs : s.offs ≤ s.pNlmsg)
    (ha : s.pNlmsg + len ≤ a + nlmsgHdrlen) :
    (nlCompact s len).recvBuf.read a n = s.recvBuf.read a n := by
  unfold nlCompact
  split
  · refine Mem.read_write_of_disjoint _ (Or.inr ?_)
    rw [Mem.length_read]
    omega
  · rfl

end NlCompact

/-- The reference unfolded at the bytes a cursor state still has to parse. Its tests are those of
the C code then, in terms of the header at the cursor. -/
private theorem nlChain_read {m : Mem UInt8} {p l len : ℕ} {nlmsg : Nlmsghdr}
    (hmsg : nlmsg = nlmsghdrAt m p) (hlen : len = nlmsg.nlmsgLen.toNat) :
    nlChain (m.read p l) =
      if nlmsgHdrlen ≤ l ∧ nlmsgHdrlen ≤ len ∧ len ≤ l then
        if nlmsg.nlmsgType = nlmsgNoop then none
        else if nlmsg.nlmsgType = nlmsgError then some (.error .protoErr)
        else if nlmsg.nlmsgType = nlmsgDone then
          some (.ok (m.read (p + nlmsgHdrlen) (len - nlmsgHdrlen)))
        else if nlmsg.nlmsgFlags &&& nlmFMulti ≠ 0 then
          (nlChain (m.read (p + nlmsgAlign len) (l - nlmsgAlign len))).map
            (Except.map (m.read (p + nlmsgHdrlen) (len - nlmsgHdrlen) ++ ·))
        else some (.error .badMsg)
      else some (.ok []) := by
  subst hlen hmsg
  rw [nlChain]
  by_cases h : nlmsgHdrlen ≤ l
  · simp only [nlLen, nlmsghdrAt_ofBytes_read h, Mem.length_read]
    by_cases hlen : (nlmsghdrAt m p).nlmsgLen.toNat ≤ l
    · rw [Mem.take_read _ hlen, Mem.drop_read, Mem.drop_read]
    · simp [hlen]
  · simp [h]

/-- The test of the netlink loop, on what the cursor still has before it. -/
private theorem nlmsgOk_iff {s : NlState} {nlmsg : Nlmsghdr} {len : ℕ}
    (hmsg : nlmsg = nlmsghdrAt s.recvBuf s.pNlmsg) (hlen : len = nlmsg.nlmsgLen.toNat) :
    nlmsgOk s = true ↔
      nlmsgHdrlen ≤ s.dtaLen.toNat ∧ nlmsgHdrlen ≤ len ∧ len ≤ s.dtaLen.toNat := by
  subst hlen hmsg
  simp only [nlmsgOk, Bool.and_eq_true, decide_eq_true_eq]
  rw [nlmsgHdrlen]
  omega

/-- The cursor state behind a message that is moved to the front. -/
private theorem nlNext_rel {s : NlState} {len : ℕ} (hoffs : s.offs ≤ s.pNlmsg)
    (hlen : nlmsgHdrlen ≤ len) (hdta : nlmsgHdrlen ≤ s.dtaLen.toNat) :
    NlRel { nlCompact s len with
        dtaLen := s.dtaLen - nlmsgAlign len
        pNlmsg := s.pNlmsg + nlmsgAlign len }
      ((nlCompact s len).recvBuf.read 0 (nlCompact s len).offs,
        s.recvBuf.read (s.pNlmsg + nlmsgAlign len) (s.dtaLen.toNat - nlmsgAlign len)) ∧
      (s.dtaLen - nlmsgAlign len).toNat < s.dtaLen.toNat := by
  have halign := le_nlmsgAlign len
  have hnat : (s.dtaLen - (nlmsgAlign len : ℤ)).toNat = s.dtaLen.toNat - nlmsgAlign len := by
    omega
  refine ⟨⟨?_, rfl, ?_⟩, ?_⟩
  · dsimp only
    rw [nlCompact_offs]
    omega
  · dsimp only
    rw [hnat, nlCompact_read_rest hoffs (by omega)]
  · rw [hnat]
    rw [nlmsgHdrlen] at hlen hdta
    omega

/-- One round of the netlink loop follows the reference: it leaves with the reference's
outcome, or moves on to fewer bytes of the same outcome, or stays where it is before a no-op
message. -/
theorem nlStep_refines (s : NlState) (t : List UInt8 × List UInt8) (h : NlRel s t) :
    (∃ r, nlStep s = .inr r ∧ NlOut r (nlRefOut t)) ∨
      (∃ s' t', nlStep s = .inl s' ∧ NlRel s' t' ∧ s'.dtaLen.toNat < s.dtaLen.toNat ∧
        nlRefOut t' = nlRefOut t) ∨
      (nlStep s = .inl s ∧ nlRefOut t = none) := by
  obtain ⟨acc, rest⟩ := t
  obtain ⟨hoffs, hacc, hrest⟩ := h
  dsimp only at hacc hrest
  subst hacc hrest
  -- the header is named, so that the branches of the two sides are the same conditions
  obtain ⟨nlmsg, hmsg⟩ : ∃ nlmsg, nlmsg = nlmsghdrAt s.recvBuf s.pNlmsg := ⟨_, rfl⟩
  obtain ⟨len, hlen⟩ : ∃ len, len = nlmsg.nlmsgLen.toNat := ⟨_, rfl⟩
  have hok := nlmsgOk_iff hmsg hlen
  have hread := nlChain_read (l := s.dtaLen.toNat) hmsg hlen
  by_cases hnext : nlmsgOk s = true
  swap
  · left
    rw [if_neg (mt hok.mpr hnext)] at hread
    refine ⟨.ok s, if_neg hnext, ?_⟩
    simp [nlRefOut, hread, NlOut, Except.map]
  rw [if_pos (hok.mp hnext)] at hread
  have hstep : nlStep s = _ := if_pos hnext
  simp only [← hmsg, ← hlen] at hstep
  by_cases hnoop : nlmsg.nlmsgType = nlmsgNoop
  · right; right
    rw [if_pos hnoop] at hread hstep
    exact ⟨hstep, by simp [nlRefOut, hread]⟩
  rw [if_neg hnoop] at hread hstep
  by_cases herr : nlmsg.nlmsgType = nlmsgError
  · left
    rw [if_pos herr] at hread hstep
    exact ⟨_, hstep, by simp [nlRefOut, hread, NlOut, Except.map]⟩
  rw [if_neg herr] at hread hstep
  by_cases hdone : nlmsg.nlmsgType = nlmsgDone
  · left
    rw [if_pos hdone] at hread
    rw [if_pos (Or.inl hdone), if_pos hdone] at hstep
    exact ⟨_, hstep, by simp [nlRefOut, hread, NlOut, Except.map, nlCompact_read_front]⟩
  rw [if_neg hdone] at hread
  by_cases hmulti : nlmsg.nlmsgFlags &&& nlmFMulti ≠ 0
  swap
  · left
    rw [if_neg hmulti] at hread
    rw [if_neg (by tauto)] at hstep
    exact ⟨_, hstep, by simp [nlRefOut, hread, NlOut, Except.map]⟩
  -- a part of a multipart message: the only branch that goes round again
  right; left
  rw [if_pos hmulti] at hread
  rw [if_pos (Or.inr hmulti), if_neg hdone, nlCompact_dtaLen, nlCompact_pNlmsg] at hstep
  obtain ⟨-, hlen16, -⟩ := hok.mp hnext
  obtain ⟨hrel, hlt⟩ := nlNext_rel hoffs hlen16 (hok.mp hnext).1
  refine ⟨_, _, hstep, hrel, hlt, ?_⟩
  simp only [nlRefOut, nlCompact_read_front, hread]
  rcases nlChain (s.recvBuf.read (s.pNlmsg + nlmsgAlign len)
    (s.dtaLen.toNat - nlmsgAlign len)) with _ | _ | _ <;> simp [Except.map]

/-- The netlink loop reaches the reference's outcome, and runs for ever when the reference
meets a no-op message. -/
theorem run_nlStep {fuel : ℕ} {s : NlState} {t : List UInt8 × List UInt8} (h : NlRel s t)
    (hfuel : s.dtaLen.toNat < fuel) :
    (Loop.run nlStep fuel s).map (Except.map fun s => s.recvBuf.read 0 s.offs) = nlRefOut t := by
  rcases hout : nlRefOut t with _ | out
  -- the reference has no outcome: having none is an invariant, and no round leaves the loop
  · have hstay : ∀ s, (∃ t, NlRel s t ∧ nlRefOut t = none) →
        ∃ s', nlStep s = .inl s' ∧ ∃ t, NlRel s' t ∧ nlRefOut t = none := by
      rintro s ⟨t, hR, hnone⟩
      rcases nlStep_refines s t hR with ⟨r, -, hr⟩ | ⟨s', t', hs', hR', -, ht'⟩ | ⟨hs, -⟩
      · rw [hnone] at hr
        cases hr
      · exact ⟨s', hs', t', hR', ht'.trans hnone⟩
      · exact ⟨s, hs, t, hR, hnone⟩
    rw [Loop.run_eq_none_of_invariant hstay ⟨t, h, hout⟩ fuel]
    rfl
  -- it has one: no round stays where it is, so the bytes left bound the rounds
  · have hmove : ∀ s t, NlRel s t ∧ nlRefOut t ≠ none →
        (∃ r, nlStep s = .inr r ∧ NlOut r (nlRefOut t)) ∨
          ∃ s' t', nlStep s = .inl s' ∧ (NlRel s' t' ∧ nlRefOut t' ≠ none) ∧
            s'.dtaLen.toNat < s.dtaLen.toNat ∧ nlRefOut t' = nlRefOut t := by
      rintro s t ⟨hR, hne⟩
      rcases nlStep_refines s t hR with hexit | ⟨s', t', hs', hR', hlt, ht'⟩ | ⟨-, hnone⟩
      · exact Or.inl hexit
      · exact Or.inr ⟨s', t', hs', ⟨hR', ht' ▸ hne⟩, hlt, ht'⟩
      · exact absurd hnone hne
    obtain ⟨r, hr, hQ⟩ := Loop.run_refines _ hmove ⟨h, by simp [hout]⟩ hfuel
    rw [hr, ← hout, hQ]
    rfl

/-! ### The connector chain in place -/

theorem cnMsgAt_ofBytes_read {m : Mem UInt8} {p l : ℕ}
    (h : sizeofCnMsg + (cnMsgHdrAt m p).len.toNat ≤ l) :
    cnMsgAt (ofBytes (m.read p l)) 0 = cnMsgAt m p := by
  have hhdr : cnMsgHdrAt (ofBytes (m.read p l)) 0 = cnMsgHdrAt m p :=
    cnMsgHdrAt_ofBytes_read (by omega)
  simp only [cnMsgAt, hhdr, Nat.zero_add, CnMsg.mk.injEq, true_and]
  exact Mem.read_ofList_read 0 m h

/-- What the connector parser makes of the bytes a cursor state still has to parse. -/
theorem cnParser_read (m : Mem UInt8) (p l : ℕ) :
    cnParser.parse (m.read p l) =
      if sizeofCnMsg + (cnMsgHdrAt m p).len.toNat ≤ l then
        some (cnMsgAt m p, m.read (p + (sizeofCnMsg + (cnMsgHdrAt m p).len.toNat))
          (l - (sizeofCnMsg + (cnMsgHdrAt m p).len.toNat)))
      else none := by
  simp only [cnParser, Mem.length_read, Mem.drop_read]
  by_cases hl : sizeofCnMsg ≤ l
  · rw [cnMsgHdrAt_ofBytes_read hl]
    by_cases h : sizeofCnMsg + (cnMsgHdrAt m p).len.toNat ≤ l
    · rw [if_pos h, if_pos h, cnMsgAt_ofBytes_read h]
    · rw [if_neg h, if_neg h]
  · rw [if_neg (by omega), if_neg (by omega)]

/-- A cursor state of the connector loop stands for the frames collected so far and the bytes
still to be parsed. The write position is at or before the cursor. -/
def CnRel (s : CnState) (t : List UInt8 × List UInt8) : Prop :=
  s.offs ≤ s.pCnmsg ∧ 0 ≤ s.dtaLen ∧ s.dtaLen < 2 ^ 32 ∧ t.1 = s.recvBuf.read 0 s.offs ∧
    t.2 = s.recvBuf.read s.pCnmsg s.dtaLen.toNat

/-- The frames the reference gives a state of the connector loop. -/
def cnRefOut (pReq : CnMsg) (t : List UInt8 × List UInt8) : List UInt8 :=
  t.1 ++ (keptCnMsgs pReq t.2).flatMap ackFrame

section CnCompact

variable {s : CnState} {cnmsg : CnMsgHdr}

/-- The frame is appended to what is at the front already: writing the ack leaves the data
that are about to be copied alone. -/
theorem cnCompact_read_front (hoffs : s.offs ≤ s.pCnmsg) :
    (cnCompact s cnmsg).recvBuf.read 0 (cnCompact s cnmsg).offs =
      s.recvBuf.read 0 s.offs ++ (leBytes 4 cnmsg.ack.toNat ++
        s.recvBuf.read (s.pCnmsg + sizeofCnMsg) cnmsg.len.toNat) := by
  have hdata : (s.recvBuf.write s.offs (leBytes 4 cnmsg.ack.toNat)).read
      (s.pCnmsg + sizeofCnMsg) cnmsg.len.toNat =
        s.recvBuf.read (s.pCnmsg + sizeofCnMsg) cnmsg.len.toNat := by
    refine Mem.read_write_of_disjoint _ (Or.inr ?_)
    rw [length_leBytes, sizeofCnMsg]
    omega
  have hack : (s.recvBuf.write s.offs (leBytes 4 cnmsg.ack.toNat)).read 0 (s.offs + 4) =
      s.recvBuf.read 0 s.offs ++ leBytes 4 cnmsg.ack.toNat := by
    simpa using Mem.read_write_append s.recvBuf 0 s.offs (leBytes 4 cnmsg.ack.toNat)
  have happ := Mem.read_write_append (s.recvBuf.write s.offs (leBytes 4 cnmsg.ack.toNat)) 0
    (s.offs + 4) (s.recvBuf.read (s.pCnmsg + sizeofCnMsg) cnmsg.len.toNat)
  rw [Mem.length_read, Nat.zero_add, hack, List.append_assoc] at happ
  simp only [cnCompact, hdata]
  exact happ

/-- Compaction leaves everything behind the current message alone. -/
theorem cnCompact_read_rest {n : ℕ} (hoffs : s.offs ≤ s.pCnmsg) :
    (cnCompact s cnmsg).recvBuf.read (s.pCnmsg + (sizeofCnMsg + cnmsg.len.toNat)) n =
      s.recvBuf.read (s.pCnmsg + (sizeofCnMsg + cnmsg.len.toNat)) n := by
  simp only [cnCompact]
  rw [Mem.read_write_of_disjoint, Mem.read_write_of_disjoint]
  · right
    rw [length_leBytes, sizeofCnMsg]
    omega
  · right
    rw [Mem.length_read, sizeofCnMsg]
    omega

/-- A round moves a message that is kept to the front, and leaves everything behind it alone. What
is at the front grows by its frame, or stays as it is. -/
theorem cnKeep_spec (cnmsg : CnMsgHdr) (hoffs : s.offs ≤ s.pCnmsg) (kept : Prop)
    [Decidable kept] :
    let s' := if kept then cnCompact s cnmsg else s
    s'.pCnmsg = s.pCnmsg ∧ s'.dtaLen = s.dtaLen ∧
      s'.offs ≤ s.pCnmsg + (sizeofCnMsg + cnmsg.len.toNat) ∧
      s'.recvBuf.read 0 s'.offs = s.recvBuf.read 0 s.offs ++
        (if kept then leBytes 4 cnmsg.ack.toNat ++
          s.recvBuf.read (s.pCnmsg + sizeofCnMsg) cnmsg.len.toNat else []) ∧
      ∀ n, s'.recvBuf.read (s.pCnmsg + (sizeofCnMsg + cnmsg.len.toNat)) n =
        s.recvBuf.read (s.pCnmsg + (sizeofCnMsg + cnmsg.len.toNat)) n := by
  intro s'
  by_cases hk : kept
  · have hs' : s' = cnCompact s cnmsg := if_pos hk
    rw [hs', if_pos hk]
    refine ⟨rfl, rfl, ?_, cnCompact_read_front hoffs, fun n => cnCompact_read_rest hoffs⟩
    simp only [cnCompact, sizeofCnMsg]
    omega
  · have hs' : s' = s := if_neg hk
    rw [hs', if_neg hk, List.append_nil]
    exact ⟨rfl, rfl, by omega, rfl, fun _ => rfl⟩

end CnCompact

/-- What is kept of a buffer that starts with a whole connector message: the message, when it
passes, and what is kept of the rest. -/
theorem keptCnMsgs_read (pReq : CnMsg) {m : Mem UInt8} {p l : ℕ}
    (hle : sizeofCnMsg + (cnMsgHdrAt m p).len.toNat ≤ l) :
    keptCnMsgs pReq (m.read p l) =
      (if cnFltr pReq (cnMsgHdrAt m p) = 0 ∧ 0 < (cnMsgHdrAt m p).len.toNat
        then [cnMsgAt m p] else []) ++
        keptCnMsgs pReq (m.read (p + (sizeofCnMsg + (cnMsgHdrAt m p).len.toNat))
          (l - (sizeofCnMsg + (cnMsgHdrAt m p).len.toNat))) := by
  have hparse := cnParser_read m p l
  rw [if_pos hle] at hparse
  have hlen : (cnMsgAt m p).data.length = (cnMsgHdrAt m p).len.toNat := Mem.length_read ..
  rw [keptCnMsgs, RecordParser.chain_of_some hparse, List.filter_cons, cnMsgAt_hdr, hlen]
  by_cases hk : cnFltr pReq (cnMsgHdrAt m p) = 0 ∧ 0 < (cnMsgHdrAt m p).len.toNat
  · simp [hk, keptCnMsgs]
  · simp only [hk, if_false, decide_false, Bool.false_eq_true]
    rfl

/-- One round of the connector loop follows the reference. It leaves where the reference finds no
further message, and otherwise takes one, which is kept or not by the same test. -/
theorem cnStep_refines (w : WordSize) (pReq : CnMsg) (s : CnState)
    (t : List UInt8 × List UInt8) (h : CnRel s t) :
    (∃ r, cnStep w pReq s = .inr r ∧ r.recvBuf.read 0 r.offs = cnRefOut pReq t) ∨
      ∃ s' t', cnStep w pReq s = .inl s' ∧ CnRel s' t' ∧ s'.dtaLen.toNat < s.dtaLen.toNat ∧
        cnRefOut pReq t' = cnRefOut pReq t := by
  obtain ⟨acc, rest⟩ := t
  obtain ⟨hoffs, hpos, hlt, hacc, hrest⟩ := h
  dsimp only at hacc hrest
  subst hacc hrest
  obtain ⟨cnmsg, hmsg⟩ : ∃ cnmsg, cnmsg = cnMsgHdrAt s.recvBuf s.pCnmsg := ⟨_, rfl⟩
  have hsize : w.sizeT s.dtaLen = s.dtaLen.toNat := by
    have := w.sizeT_natCast (n := s.dtaLen.toNat) (by omega)
    rwa [Int.toNat_of_nonneg hpos] at this
  have hparse := cnParser_read s.recvBuf s.pCnmsg s.dtaLen.toNat
  rw [← hmsg] at hparse
  have hok : cnmsgOk w s = true ↔ sizeofCnMsg + cnmsg.len.toNat ≤ s.dtaLen.toNat := by
    rw [cnmsgOk, hsize, ← hmsg, decide_eq_true_eq]
  by_cases hnext : cnmsgOk w s = true
  swap
  · left
    rw [if_neg (mt hok.mpr hnext)] at hparse
    refine ⟨s, if_neg hnext, ?_⟩
    simp [cnRefOut, keptCnMsgs, RecordParser.chain_of_none hparse]
  right
  have hle := hok.mp hnext
  have hstep : cnStep w pReq s = _ := if_pos hnext
  simp only [← hmsg] at hstep
  have hnat : (s.dtaLen - ((sizeofCnMsg + cnmsg.len.toNat : ℕ) : ℤ)).toNat =
      s.dtaLen.toNat - (sizeofCnMsg + cnmsg.len.toNat) := by omega
  have hhdr : (cnMsgAt s.recvBuf s.pCnmsg).hdr = cnmsg := by rw [cnMsgAt_hdr, hmsg]
  have hdata : (cnMsgAt s.recvBuf s.pCnmsg).data =
      s.recvBuf.read (s.pCnmsg + sizeofCnMsg) cnmsg.len.toNat := by rw [hmsg]; rfl
  have hkept := keptCnMsgs_read pReq (m := s.recvBuf) (p := s.pCnmsg) (hmsg ▸ hle)
  rw [← hmsg] at hkept
  -- the state after the message was kept or dropped, before the cursor moves on
  obtain ⟨s', hs'⟩ : ∃ s', s' = if cnFltr pReq cnmsg = 0 ∧ 0 < cnmsg.len.toNat
    then cnCompact s cnmsg else s := ⟨_, rfl⟩
  obtain ⟨hptr, hdta, hoffs', hfront, hbehind⟩ :=
    cnKeep_spec cnmsg hoffs (cnFltr pReq cnmsg = 0 ∧ 0 < cnmsg.len.toNat)
  rw [← hs'] at hstep hptr hdta hoffs' hfront hbehind
  rw [hptr, hdta] at hstep
  refine ⟨_, (s'.recvBuf.read 0 s'.offs,
    s.recvBuf.read (s.pCnmsg + (sizeofCnMsg + cnmsg.len.toNat))
      (s.dtaLen.toNat - (sizeofCnMsg + cnmsg.len.toNat))), hstep, ⟨?_, ?_, ?_, rfl, ?_⟩, ?_, ?_⟩
  · dsimp only
    omega
  · dsimp only
    omega
  · dsimp only
    omega
  · dsimp only
    rw [hnat, Nat.add_assoc, hbehind]
  · dsimp only
    rw [hnat]
    rw [sizeofCnMsg] at hle ⊢
    omega
  · -- the frame of this message is either at the front already or filtered out of the rest
    simp only [cnRefOut, hfront, hkept, List.append_assoc, List.flatMap_append]
    split
    · rw [List.flatMap_singleton, ackFrame, hdata, ← hhdr]
      rfl
    · rfl

/-- The connector loop collects the frames of the messages that pass its filter. -/
theorem run_cnStep {fuel : ℕ} (w : WordSize) (pReq : CnMsg) {s : CnState}
    {t : List UInt8 × List UInt8} (h : CnRel s t) (hfuel : s.dtaLen.toNat < fuel) :
    ∃ r, Loop.run (cnStep w pReq) fuel s = some r ∧
      r.recvBuf.read 0 r.offs = cnRefOut pReq t :=
  Loop.run_refines (fun s => s.dtaLen.toNat) (cnStep_refines w pReq) h hfuel

/-! ### The w1 chain in place -/

section W1Chain

variable {σ : Type*} {recvCb : RecvW1msgCb σ}

theorem deliver_noMore {s : W1msgMoreStat × σ} (rs : List (W1NetlinkMsg × Bool))
    (h : s.1 = .noMore) : deliver recvCb rs s = s := by
  cases rs with
  | nil => rfl
  | cons r rs => rw [deliver, if_pos h]

theorem deliver_cons {s : W1msgMoreStat × σ} (r : W1NetlinkMsg × Bool)
    (rs : List (W1NetlinkMsg × Bool)) (h : s.1 ≠ .noMore) :
    deliver recvCb (r :: rs) s = deliver recvCb rs (recvCb s.2 r.1 r.2) := by
  rw [deliver, if_neg h]

/-- One step of `deliver`, with what the callback makes of it. -/
theorem deliver_step {ms : W1msgMoreStat} {priv : σ} {r : W1NetlinkMsg × Bool}
    {p : W1msgMoreStat × σ} (hms : ms ≠ .noMore) (hp : recvCb priv r.1 r.2 = p)
    (rs : List (W1NetlinkMsg × Bool)) :
    deliver recvCb (r :: rs) (ms, priv) = deliver recvCb rs p := by
  rw [← hp]
  exact deliver_cons r rs hms

theorem deliver_append (rs rs' : List (W1NetlinkMsg × Bool)) (s : W1msgMoreStat × σ) :
    deliver recvCb (rs ++ rs') s = deliver recvCb rs' (deliver recvCb rs s) := by
  induction rs generalizing s with
  | nil => rfl
  | cons r rs ih =>
    by_cases h : s.1 = .noMore
    · rw [deliver_noMore _ h, deliver_noMore _ h, deliver_noMore _ h]
    · rw [List.cons_append, deliver_cons _ _ h, deliver_cons _ _ h, ih]

/-- What the parser of acks and w1 messages makes of the bytes a cursor state still has to
parse. -/
private theorem ackW1Parser_read (m : Mem UInt8) (p l : ℕ) :
    ackW1Parser.parse (m.read p l) =
      if 4 + sizeofW1NetlinkMsg + w1MsgLenAt m (p + 4) ≤ l then
        some ((u32At m p, w1MsgAt m (p + 4)),
          m.read (p + (4 + sizeofW1NetlinkMsg + w1MsgLenAt m (p + 4)))
            (l - (4 + sizeofW1NetlinkMsg + w1MsgLenAt m (p + 4))))
      else none := by
  simp only [ackW1Parser, Mem.length_read, Mem.drop_read]
  by_cases hl : 4 + sizeofW1NetlinkMsg ≤ l
  · have hl8 : 8 ≤ l := by rw [sizeofW1NetlinkMsg] at hl; omega
    have hlen : w1MsgLenAt (ofBytes (m.read p l)) 4 = w1MsgLenAt m (p + 4) := by
      rw [w1MsgLenAt, u16At_ofBytes_read hl8, w1MsgLenAt]
    rw [hlen]
    by_cases h : 4 + sizeofW1NetlinkMsg + w1MsgLenAt m (p + 4) ≤ l
    · rw [if_pos h, if_pos h, u32At_ofBytes_read (by omega), w1MsgAt_ofBytes_read h]
      rfl
    · rw [if_neg h, if_neg h]
  · rw [if_neg (by omega), if_neg (by omega)]

/-- A cursor state of the w1 loop stands for the bytes still to be parsed, the pending status
and the callback's data. -/
def W1Rel (s : W1State σ) (t : (W1msgMoreStat × σ) × List UInt8) : Prop :=
  s.pW1msg = s.pAck + 4 ∧ 0 ≤ s.dtaLen ∧ s.dtaLen < 2 ^ 32 ∧ t.1 = (s.moreStat, s.priv) ∧
    t.2 = s.recvBuf.read s.pAck s.dtaLen.toNat

/-- What the reference makes of a state of the w1 loop. -/
def w1RefOut (pReq : CnMsg) (recvCb : RecvW1msgCb σ)
    (t : (W1msgMoreStat × σ) × List UInt8) : W1msgMoreStat × σ :=
  deliver recvCb (w1Records pReq (ackW1Parser.chain t.2)) t.1

/-- One round of the w1 loop follows the reference: it leaves at the end of the records, or when
the callback wants no more, and otherwise hands on a record if it passes the filter. -/
theorem w1Step_refines (w : WordSize) (pReq : CnMsg) (s : W1State σ)
    (t : (W1msgMoreStat × σ) × List UInt8) (h : W1Rel s t) :
    (∃ r, w1Step w pReq recvCb s = .inr r ∧
        (r.moreStat, r.priv) = w1RefOut pReq recvCb t) ∨
      ∃ s' t', w1Step w pReq recvCb s = .inl s' ∧ W1Rel s' t' ∧
        s'.dtaLen.toNat < s.dtaLen.toNat ∧
        w1RefOut pReq recvCb t' = w1RefOut pReq recvCb t := by
  obtain ⟨ms, rest⟩ := t
  obtain ⟨hptr, hpos, hlt, hms, hrest⟩ := h
  dsimp only at hms hrest
  subst hms hrest
  have hsize : w.sizeT s.dtaLen = s.dtaLen.toNat := by
    have := w.sizeT_natCast (n := s.dtaLen.toNat) (by omega)
    rwa [Int.toNat_of_nonneg hpos] at this
  have hparse := ackW1Parser_read s.recvBuf s.pAck s.dtaLen.toNat
  rw [← hptr] at hparse
  obtain ⟨w1msg, hmsg⟩ : ∃ w1msg, w1msg = w1MsgAt s.recvBuf s.pW1msg := ⟨_, rfl⟩
  have hlen : w1MsgLenAt s.recvBuf s.pW1msg = w1msg.len := by
    rw [hmsg, W1NetlinkMsg.len, w1MsgAt, Mem.length_read]
  rw [hlen, ← hmsg] at hparse
  have hok : ackW1msgOk w s = true ↔ 4 + sizeofW1NetlinkMsg + w1msg.len ≤ s.dtaLen.toNat := by
    rw [ackW1msgOk, hsize, hlen, decide_eq_true_eq]
  by_cases hnext : ackW1msgOk w s = true
  swap
  · left
    rw [if_neg (mt hok.mpr hnext)] at hparse
    exact ⟨s, if_neg hnext, by simp [w1RefOut, RecordParser.chain_of_none hparse, w1Records,
      deliver]⟩
  right
  have hle := hok.mp hnext
  rw [if_pos hle] at hparse
  have hstep : w1Step w pReq recvCb s = _ := if_pos hnext
  simp only [← hmsg] at hstep
  have hnat : (s.dtaLen - ((4 + sizeofW1NetlinkMsg + w1msg.len : ℕ) : ℤ)).toNat =
      s.dtaLen.toNat - (4 + sizeofW1NetlinkMsg + w1msg.len) := by omega
  refine ⟨_, (_, s.recvBuf.read (s.pAck + (4 + sizeofW1NetlinkMsg + w1msg.len))
    (s.dtaLen.toNat - (4 + sizeofW1NetlinkMsg + w1msg.len))), hstep,
    ⟨?_, ?_, ?_, rfl, ?_⟩, ?_, ?_⟩
  · dsimp only
    omega
  · dsimp only
    omega
  · dsimp only
    omega
  · dsimp only
    rw [hnat, Nat.add_assoc s.pAck, Nat.add_assoc s.pAck]
  · dsimp only
    rw [hnat]
    omega
  · -- the callback is called on the record, unless it is filtered out or came too late
    simp only [w1RefOut, RecordParser.chain_of_some hparse, w1Records, List.filter_cons]
    by_cases hf : w1Fltr (w1Req pReq) w1msg = 0
    · by_cases hm : s.moreStat = .noMore
      · rw [if_neg (by tauto), deliver_noMore _ hm, deliver_noMore _ hm]
      · rw [if_pos ⟨hf, hm⟩, if_pos (by simpa using hf), List.map_cons, deliver_cons _ _ hm]
    · rw [if_neg (by tauto), if_neg (by simpa using hf)]

/-- The w1 loop hands the records of the frames to the callback. -/
theorem run_w1Step {fuel : ℕ} (w : WordSize) (pReq : CnMsg) {s : W1State σ}
    {t : (W1msgMoreStat × σ) × List UInt8} (h : W1Rel s t) (hfuel : s.dtaLen.toNat < fuel) :
    ∃ r, Loop.run (w1Step w pReq recvCb) fuel s = some r ∧
      (r.moreStat, r.priv) = w1RefOut pReq recvCb t :=
  Loop.run_refines (fun s => s.dtaLen.toNat) (w1Step_refines w pReq) h hfuel

end W1Chain

/-! ### The receive loop -/

section Receive

variable {σ : Type*} (w : WordSize) {fuel : ℕ} (pReq : CnMsg) (recvCb : RecvW1msgCb σ)

/-- One datagram: the receive loop goes on with what the reference delivers, whatever the
buffer held before. -/
theorem recvDatagram_eq (hfuel : maxW1NetlinkMsgSz < fuel) (bs : List UInt8)
    (s : RecvState σ) :
    match nlChain (bs.take maxW1NetlinkMsgSz) with
    | none => recvDatagram w fuel pReq recvCb bs s = none
    | some (.error e) => recvDatagram w fuel pReq recvCb bs s = some (.error e)
    | some (.ok payload) => ∃ s', recvDatagram w fuel pReq recvCb bs s = some (.ok s') ∧
        (s'.moreStat, s'.priv) =
          deliver recvCb (records pReq payload) (s.moreStat, s.priv) := by
  obtain ⟨dta, hdta⟩ : ∃ dta, dta = bs.take maxW1NetlinkMsgSz := ⟨_, rfl⟩
  have hlen : dta.length ≤ maxW1NetlinkMsgSz := by rw [hdta]; exact List.length_take_le ..
  have hsz : maxW1NetlinkMsgSz = 4112 := rfl
  -- the netlink loop starts on the datagram as it was received
  have hnl : NlRel ⟨s.recvBuf.write 0 dta, 0, dta.length, 0⟩ ([], dta) :=
    ⟨le_rfl, rfl, by simp⟩
  have hrun := run_nlStep hnl (show _ < fuel by simpa using by omega)
  have hout : nlRefOut ([], dta) = nlChain dta := by
    rw [nlRefOut]
    rcases nlChain dta with _ | _ | _ <;> rfl
  rw [hout] at hrun
  rw [← hdta]
  simp only [recvDatagram, ← hdta]
  rcases hres : Loop.run nlStep fuel ⟨s.recvBuf.write 0 dta, 0, dta.length, 0⟩ with _ | e | nl
  · rw [hres] at hrun
    rw [← hrun]
    rfl
  · rw [hres] at hrun
    rw [← hrun]
    rfl
  · rw [hres] at hrun
    rw [← hrun]
    have hoffs : nl.offs ≤ maxW1NetlinkMsgSz := by
      have := length_nlChain_le hrun.symm
      rw [Mem.length_read] at this
      omega
    -- the connector loop starts on the payload the netlink loop put at the front
    have hcn : CnRel ⟨nl.recvBuf, 0, nl.offs, 0⟩ ([], nl.recvBuf.read 0 nl.offs) :=
      ⟨le_rfl, by simp, by simpa using by omega, rfl, by simp⟩
    obtain ⟨cn, hcnrun, hcnout⟩ := run_cnStep w pReq hcn (show _ < fuel by simpa using by omega)
    have hoffs' : cn.offs ≤ maxW1NetlinkMsgSz := by
      have := length_ackFrames_le pReq (nl.recvBuf.read 0 nl.offs)
      rw [Mem.length_read] at this
      have hlen' := congrArg List.length hcnout
      rw [Mem.length_read, cnRefOut, List.nil_append] at hlen'
      dsimp only at hlen'
      omega
    -- and the w1 loop on the frames the connector loop put there
    have hw1 : W1Rel ⟨cn.recvBuf, 0, 4, cn.offs, s.moreStat, s.priv⟩
        ((s.moreStat, s.priv), cn.recvBuf.read 0 cn.offs) :=
      ⟨rfl, by simp, by simpa using by omega, rfl, by simp⟩
    obtain ⟨w1, hw1run, hw1out⟩ : ∃ r, Loop.run (w1Step w pReq recvCb) fuel
        ⟨cn.recvBuf, 0, 4, cn.offs, s.moreStat, s.priv⟩ = some r ∧
        (r.moreStat, r.priv) = w1RefOut pReq recvCb _ :=
      run_w1Step w pReq hw1 (show _ < fuel by simpa using by omega)
    refine ⟨⟨w1.recvBuf, w1.moreStat, w1.priv⟩, by simp only [hcnrun, hw1run], ?_⟩
    rw [hw1out, w1RefOut, hcnout]
    rfl

/-- The receive loop follows the reference from any contents of the buffer. The induction is on
the events; what a datagram leaves in the buffer is again anything. -/
theorem recvLoop_eq_refLoop (hfuel : maxW1NetlinkMsgSz < fuel) (es : List RecvEvent) (n : ℕ)
    (s : RecvState σ) :
    recvLoop w fuel pReq recvCb es n s = refLoop pReq recvCb es n (s.moreStat, s.priv) := by
  induction es generalizing n s with
  | nil => rfl
  | cons e es ih =>
    cases e with
    | pollTimeout => rfl
    | pollError => rfl
    | recvError => rfl
    | datagram bs =>
      have hd := recvDatagram_eq w pReq recvCb hfuel bs s
      rw [recvLoop, refLoop]
      rcases hnl : nlChain (bs.take maxW1NetlinkMsgSz) with _ | e | payload
      · rw [hnl] at hd
        simp only at hd
        rw [hd]
      · rw [hnl] at hd
        simp only at hd
        rw [hd]
      · rw [hnl] at hd
        obtain ⟨s', hs', hpair⟩ := hd
        rw [hs']
        dsimp only
        rw [ih, hpair]

/-- **In-place parsing is transparent.** Whatever the receive buffer holds at the start, and
whatever the datagrams are, `recv_w1msg` computes the outcome of the reference parser and
takes the callback through the same states, that is, calls it on the same records in the same
order; it fails to return on exactly the same inputs. -/
theorem recvW1msg_eq_refRecv (hfuel : maxW1NetlinkMsgSz < fuel) (stale : Mem UInt8) (priv : σ)
    (es : List RecvEvent) :
    recvW1msg w fuel pReq recvCb stale priv es = refRecv pReq recvCb priv es := by
  unfold recvW1msg refRecv
  split
  · rfl
  · exact recvLoop_eq_refLoop w pReq recvCb hfuel es 0 _

/-- A callback that also keeps a log of its calls. -/
def logged : RecvW1msgCb (σ × List (W1NetlinkMsg × Bool)) := fun priv w1msg isStatus =>
  let r := recvCb priv.1 w1msg isStatus
  (r.1, r.2, priv.2 ++ [(w1msg, isStatus)])

/-- Parsing in place and parsing into fresh lists come to the same outcome, and the callback
is called on the same messages in the same order. -/
theorem recvW1msg_eq_reference (hfuel : maxW1NetlinkMsgSz < fuel) (stale : Mem UInt8) (priv : σ)
    (es : List RecvEvent) :
    recvW1msg w fuel pReq recvCb stale priv es = refRecv pReq recvCb priv es ∧
      recvW1msg w fuel pReq (logged recvCb) stale (priv, []) es =
        refRecv pReq (logged recvCb) (priv, []) es :=
  ⟨recvW1msg_eq_refRecv w pReq recvCb hfuel stale priv es,
    recvW1msg_eq_refRecv w pReq (logged recvCb) hfuel stale (priv, []) es⟩

/-- A request, a callback that wants one message, and two datagrams of which the first is
nothing but a header that promises more than there is. -/
theorem recvW1msg_eq_reference_truncated :
    let pReq : CnMsg := ⟨cnW1Idx, cnW1Val, 7, ackStatVal, 0,
      [6, 0, 0, 0, 0, 0, 0, 0, 0, 0, 0, 0], by decide⟩
    let recvCb : RecvW1msgCb ℕ := fun n _ _ => (.noMore, n + 1)
    let es : List RecvEvent := [.datagram [20, 0, 0, 0, 3, 0, 0, 0, 0, 0, 0, 0, 0, 0, 0, 0],
      .datagram [], .pollTimeout]
    recvW1msg .lp64 4113 pReq recvCb (fun _ => 0xff) 0 es = refRecv pReq recvCb 0 es ∧
      recvW1msg .lp64 4113 pReq (logged recvCb) (fun _ => 0xff) (0, []) es =
        refRecv pReq (logged recvCb) (0, []) es :=
  recvW1msg_eq_reference .lp64 _ _ (by decide) (fun _ => 0xff) 0 _

end Receive

end Librasp
