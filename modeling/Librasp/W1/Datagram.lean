import Librasp.W1.Reference

/-!
# Well-formed datagrams

A `Datagram` is what the kernel sends: netlink messages flagged `NLM_F_MULTI`, then one
`NLMSG_DONE` message, each holding connector messages, each of those holding w1 messages. It
carries its own well-formedness: the framing is right by construction. What does not fit the
receive buffer is cut off (`cutOff`).

`Datagram.answers` is what a request should be handed, read off the structure with no parsing. The
parser re-frames the data of each connector message behind **one** ack, and then steps over an ack
before **each** w1 message. The two agree exactly when no kept connector message holds more than
one w1 message (`handsExactly_iff`).

* `nlChain_take_toBytes` and `recvDatagram_toBytes` have what the code makes of the bytes of a
  datagram, of which any part may have arrived.
* `HandsExactly` is said of all requests, pending statuses and callbacks; it comes down to the
  records the last layer finds (`handsExactly_iff_records`).
* That a second w1 message in a reply is lost is shown by counting: with an ack to each of them
  the records would take up more room than there is (`sum_ackedSize_le_of_handsExactly`).

**Main result.** `handsExactly_iff`. `IsPlain` datagrams, for which it holds, are what the other
modules let the kernel send.
-/

namespace Librasp

/-! ### Structure and bytes -/

/-- A connector message with the w1 messages it holds. -/
structure CnRecords where
  idx : UInt32
  val : UInt32
  seq : UInt32
  ack : UInt32
  flags : UInt16
  recs : List W1NetlinkMsg
  data_lt : (recs.flatMap W1NetlinkMsg.toBytes).length < 65536

namespace CnRecords

/-- The connector message as it is framed. -/
def toCnMsg (c : CnRecords) : CnMsg where
  idx := c.idx
  val := c.val
  seq := c.seq
  ack := c.ack
  flags := c.flags
  data := c.recs.flatMap W1NetlinkMsg.toBytes
  data_lt := c.data_lt

/-- A message of the w1 subsystem with a given sequence number. -/
def IsReply (c : CnRecords) (seq : UInt32) : Prop :=
  c.idx = cnW1Idx ∧ c.val = cnW1Val ∧ c.seq = seq

instance (c : CnRecords) (seq : UInt32) : Decidable (c.IsReply seq) :=
  inferInstanceAs (Decidable (_ ∧ _ ∧ _))

/-- The w1 messages of a connector message, each behind the message's ack. -/
def acked (c : CnRecords) : List (UInt32 × W1NetlinkMsg) := c.recs.map fun r => (c.ack, r)

end CnRecords

/-- A netlink message with the connector messages it holds. -/
structure NlMsg where
  nlmsgType : UInt16
  nlmsgFlags : UInt16
  nlmsgSeq : UInt32
  nlmsgPid : UInt32
  cns : List CnRecords
  /-- What fills the message up to its alignment. -/
  pad : List UInt8
  len_lt : nlmsgHdrlen + (cns.flatMap fun c => c.toCnMsg.toBytes).length < 2 ^ 32

namespace NlMsg

/-- The payload of a netlink message. -/
def payload (m : NlMsg) : List UInt8 := m.cns.flatMap fun c => c.toCnMsg.toBytes

/-- The length field. -/
def len (m : NlMsg) : ℕ := nlmsgHdrlen + m.payload.length

/-- The header of a netlink message. -/
def hdr (m : NlMsg) : Nlmsghdr :=
  ⟨.ofNat m.len, m.nlmsgType, m.nlmsgFlags, m.nlmsgSeq, m.nlmsgPid⟩

/-- A netlink message as bytes. -/
def toBytes (m : NlMsg) : List UInt8 := m.hdr.toBytes ++ (m.payload ++ m.pad)

/-- A message inside a multi-part chain: padded to its alignment, and neither a no-op nor an
error nor the end of the chain. -/
structure IsMulti (m : NlMsg) : Prop where
  flag : m.nlmsgFlags &&& nlmFMulti ≠ 0
  noop : m.nlmsgType ≠ nlmsgNoop
  error : m.nlmsgType ≠ nlmsgError
  done : m.nlmsgType ≠ nlmsgDone
  padded : m.len + m.pad.length = nlmsgAlign m.len

@[simp]
theorem length_toBytes (m : NlMsg) : m.toBytes.length = m.len + m.pad.length := by
  simp [toBytes, len, Nat.add_assoc]

theorem toNat_hdr_len (m : NlMsg) : m.hdr.nlmsgLen.toNat = m.len :=
  UInt32.toNat_ofNat_of_lt' m.len_lt

end NlMsg

/-- A multi-part datagram. -/
structure Datagram where
  msgs : List NlMsg
  last : NlMsg
  multi : ∀ m ∈ msgs, m.IsMulti
  last_done : last.nlmsgType = nlmsgDone

/-- The leading messages that end within the first `room` bytes. -/
def receivedWithin : ℕ → List NlMsg → List NlMsg
  | _, [] => []
  | room, m :: ms =>
    if m.len ≤ room then m :: receivedWithin (room - (m.len + m.pad.length)) ms else []

theorem receivedWithin_initial (room : ℕ) (ms : List NlMsg) : receivedWithin room ms <+: ms := by
  induction ms generalizing room with
  | nil => exact List.prefix_rfl
  | cons m ms ih =>
    rw [receivedWithin]
    split
    · exact (List.prefix_cons_inj m).mpr (ih _)
    · exact List.nil_prefix

/-- Messages that fit as a whole are all received. -/
theorem receivedWithin_of_fits {room : ℕ} {ms : List NlMsg}
    (h : (ms.flatMap NlMsg.toBytes).length ≤ room) : receivedWithin room ms = ms := by
  induction ms generalizing room with
  | nil => rfl
  | cons m ms ih =>
    rw [List.flatMap_cons, List.length_append, NlMsg.length_toBytes] at h
    rw [receivedWithin, if_pos (by omega), ih (by omega)]

namespace Datagram

variable (d : Datagram)

/-- The netlink messages of a datagram. -/
def nlMsgs : List NlMsg := d.msgs ++ [d.last]

/-- A datagram as bytes. -/
def toBytes : List UInt8 := d.nlMsgs.flatMap NlMsg.toBytes

/-- The connector messages of a datagram, in order. -/
def cns : List CnRecords := d.nlMsgs.flatMap NlMsg.cns

/-- The connector messages in the netlink messages that the receive buffer has room for. -/
def received : List CnRecords :=
  (receivedWithin maxW1NetlinkMsgSz d.nlMsgs).flatMap NlMsg.cns

/-- The connector messages in the netlink messages that `recv()` cuts off. -/
def cutOff : List CnRecords :=
  (d.nlMsgs.drop (receivedWithin maxW1NetlinkMsgSz d.nlMsgs).length).flatMap NlMsg.cns

theorem received_append_cutOff : d.received ++ d.cutOff = d.cns := by
  rw [received, cutOff, ← List.flatMap_append, cns]
  congr 1
  exact List.prefix_append_drop (receivedWithin_initial maxW1NetlinkMsgSz d.nlMsgs) |>.symm

/-- A datagram that fits the receive buffer. -/
def Fits : Prop := d.toBytes.length ≤ maxW1NetlinkMsgSz

/-- Nothing is cut off from a datagram that fits the receive buffer. -/
theorem received_of_fits (h : d.Fits) : d.received = d.cns := by
  rw [received, receivedWithin_of_fits h, cns]

end Datagram

/-- The w1 messages of the replies with a sequence number, each behind its ack. -/
def ackedReplies (seq : UInt32) (cns : List CnRecords) : List (UInt32 × W1NetlinkMsg) :=
  (cns.filter fun c => c.IsReply seq).flatMap CnRecords.acked

/-- A w1 message answers a request: it is of the same type and, for the types that address a
master or a slave, from the same one. -/
def Answers (w1req w1msg : W1NetlinkMsg) : Prop :=
  w1msg.type = w1req.type ∧ (w1req.type = w1MasterCmd → w1msg.mstId = w1req.mstId) ∧
    (w1req.type = w1SlaveCmd → w1msg.id = w1req.id)

instance (w1req w1msg : W1NetlinkMsg) : Decidable (Answers w1req w1msg) :=
  inferInstanceAs (Decidable (_ ∧ _ ∧ _))

/-- What a request should be handed from a datagram: the w1 messages that answer it, with
`is_status` true when the connector ack is `ACK_STAT_VAL`. -/
def Datagram.answers (d : Datagram) (pReq : CnMsg) : List (W1NetlinkMsg × Bool) :=
  ((ackedReplies pReq.seq d.cns).filter fun r => Answers (w1Req pReq) r.2).map fun r =>
    (r.2, decide (r.1 = ackStatVal))

/-! ### Parsing a datagram -/

/-- The header survives in any part of a datagram that reaches beyond it. -/
theorem nlmsghdrAt_take_toBytes {m : NlMsg} {room : ℕ} (hroom : nlmsgHdrlen ≤ room)
    (rest : List UInt8) :
    nlmsghdrAt (ofBytes ((m.toBytes ++ rest).take room)) 0 = m.hdr := by
  have h16 : m.hdr.toBytes.length = nlmsgHdrlen := m.hdr.length_toBytes
  rw [NlMsg.toBytes, List.append_assoc, List.take_append, h16,
    List.take_of_length_le (h16.trans_le hroom)]
  exact nlmsghdrAt_toBytes _ _

/-- The header and the payload of a message that was received whole. -/
theorem take_toBytes_append {m : NlMsg} {room : ℕ} (hroom : m.len ≤ room)
    (rest : List UInt8) :
    nlmsghdrAt (ofBytes ((m.toBytes ++ rest).take room)) 0 = m.hdr ∧
      (((m.toBytes ++ rest).take room).take m.len).drop nlmsgHdrlen = m.payload := by
  have hge : nlmsgHdrlen ≤ m.len := Nat.le_add_right ..
  refine ⟨nlmsghdrAt_take_toBytes (hge.trans hroom) rest, ?_⟩
  have h16 : m.hdr.toBytes.length = nlmsgHdrlen := m.hdr.length_toBytes
  rw [List.take_take, Nat.min_eq_left hroom, NlMsg.toBytes, List.append_assoc,
    List.append_assoc, List.drop_take, List.drop_left' h16, NlMsg.len, Nat.add_sub_cancel_left,
    List.take_left' rfl]

/-- One message of a chain of which `room` bytes were received. If it was received whole, its
payload comes first, and the rest of the chain has the room behind it. -/
theorem nlChain_cons {m : NlMsg} (hm : m.IsMulti) {room : ℕ} (hroom : m.len ≤ room)
    (rest : List UInt8) :
    nlChain ((m.toBytes ++ rest).take room) =
      (nlChain (rest.take (room - (m.len + m.pad.length)))).map
        (Except.map (m.payload ++ ·)) := by
  obtain ⟨hhdr, hpay⟩ := take_toBytes_append hroom rest
  have hnl : nlLen ((m.toBytes ++ rest).take room) = m.len := by
    rw [nlLen, hhdr, m.toNat_hdr_len]
  have hrest : ((m.toBytes ++ rest).take room).drop (nlmsgAlign m.len) =
      rest.take (room - (m.len + m.pad.length)) := by
    rw [← hm.padded, List.drop_take, List.drop_left' m.length_toBytes]
  have hlen : m.len ≤ ((m.toBytes ++ rest).take room).length := by simp; omega
  have hge : nlmsgHdrlen ≤ m.len := Nat.le_add_right ..
  rw [nlChain, hnl, hhdr, hpay, hrest, if_pos ⟨hge.trans hlen, hge, hlen⟩]
  exact (if_neg hm.noop).trans ((if_neg hm.error).trans ((if_neg hm.done).trans (if_pos hm.flag)))

/-- The message that ends the chain. -/
theorem nlChain_last {m : NlMsg} (hm : m.nlmsgType = nlmsgDone) {room : ℕ}
    (hroom : m.len ≤ room) : nlChain (m.toBytes.take room) = some (.ok m.payload) := by
  obtain ⟨hhdr, hpay⟩ := take_toBytes_append hroom []
  rw [List.append_nil] at hhdr hpay
  have hnl : nlLen (m.toBytes.take room) = m.len := by rw [nlLen, hhdr, m.toNat_hdr_len]
  have hlen : m.len ≤ (m.toBytes.take room).length := by simp; omega
  have hge : nlmsgHdrlen ≤ m.len := Nat.le_add_right ..
  have htype : m.hdr.nlmsgType = nlmsgDone := hm
  rw [nlChain, hnl, hhdr, hpay, if_pos ⟨hge.trans hlen, hge, hlen⟩, htype]
  rfl

/-- A message that is cut off ends the chain. -/
theorem nlChain_cutOff {m : NlMsg} {room : ℕ} (hroom : room < m.len) (rest : List UInt8) :
    nlChain ((m.toBytes ++ rest).take room) = some (.ok []) := by
  have hlen : ((m.toBytes ++ rest).take room).length ≤ room := List.length_take_le ..
  rw [nlChain, if_neg]
  rintro ⟨h16, -, hle⟩
  have hhdr := nlmsghdrAt_take_toBytes (m := m) (h16.trans hlen) rest
  rw [nlLen, hhdr, m.toNat_hdr_len] at hle
  omega

/-- The netlink layer of what was received of a well-formed datagram is the concatenation of
the payloads that were received whole. -/
theorem nlChain_take_toBytes (d : Datagram) (room : ℕ) :
    nlChain (d.toBytes.take room) =
      some (.ok ((receivedWithin room d.nlMsgs).flatMap NlMsg.payload)) := by
  obtain ⟨msgs, last, multi, hlast⟩ := d
  simp only [Datagram.toBytes, Datagram.nlMsgs]
  induction msgs generalizing room with
  | nil =>
    simp only [List.nil_append, List.flatMap_cons, List.flatMap_nil, receivedWithin]
    by_cases hroom : last.len ≤ room
    · rw [if_pos hroom, List.append_nil, nlChain_last hlast hroom]
      simp
    · rw [if_neg hroom, nlChain_cutOff (by omega)]
      rfl
  | cons m msgs ih =>
    rw [List.cons_append, List.flatMap_cons, receivedWithin]
    by_cases hroom : m.len ≤ room
    · rw [nlChain_cons (multi m List.mem_cons_self) hroom,
        ih _ (fun m' hm' => multi m' (List.mem_cons_of_mem _ hm')), if_pos hroom]
      rfl
    · rw [if_neg hroom, nlChain_cutOff (by omega)]
      rfl

/-- The bytes of a w1 message behind an ack. -/
def ackedBytes (r : UInt32 × W1NetlinkMsg) : List UInt8 := leBytes 4 r.1.toNat ++ r.2.toBytes

/-- The parser of acks and w1 messages reads back what `ackedBytes` lays out. -/
theorem ackW1Parser_recognises : ackW1Parser.Recognises ackedBytes := by
  rintro ⟨ack, m⟩ rest
  have hbytes : ackedBytes (ack, m) ++ rest = leBytes 4 ack.toNat ++ (m.toBytes ++ rest) :=
    List.append_assoc ..
  have hdrop4 : (ackedBytes (ack, m) ++ rest).drop 4 = m.toBytes ++ rest := by
    rw [hbytes, List.drop_left' (length_leBytes ..)]
  have hlen : (ackedBytes (ack, m)).length = 4 + sizeofW1NetlinkMsg + m.len := by
    simp [ackedBytes, Nat.add_assoc]
  have hack : u32At (ofBytes (ackedBytes (ack, m) ++ rest)) 0 = ack := u32At_of_drop hbytes
  simp only [ackW1Parser, W1NetlinkMsg.w1MsgLenAt_of_drop hdrop4,
    W1NetlinkMsg.w1MsgAt_of_drop hdrop4, hack, List.drop_left' hlen, List.length_append, hlen]
  rw [if_pos (by omega)]

/-- There is no ack in no bytes. -/
theorem ackW1Parser_nil : ackW1Parser.parse [] = none := rfl

/-- The connector filter passes the replies with the request's sequence number. -/
theorem cnFltr_eq_zero_iff (pReq : CnMsg) (c : CnRecords) :
    cnFltr pReq c.toCnMsg.hdr = 0 ↔ c.IsReply pReq.seq := by
  simp only [cnFltr, CnMsg.hdr, CnRecords.toCnMsg, CnRecords.IsReply]
  by_cases hidx : c.idx = cnW1Idx
  · by_cases hval : c.val = cnW1Val
    · by_cases hseq : c.seq = pReq.seq <;> simp [hidx, hval, hseq]
    · simp [hval]
  · simp [hidx]

/-- The w1 filter passes the answers. -/
theorem w1Fltr_eq_zero_iff (w1req w1msg : W1NetlinkMsg) :
    w1Fltr w1req w1msg = 0 ↔ Answers w1req w1msg := by
  simp only [w1Fltr, Answers]
  by_cases htype : w1msg.type = w1req.type
  · simp [htype]
  · simp [htype]

theorem w1Records_eq (pReq : CnMsg) (recs : List (UInt32 × W1NetlinkMsg)) :
    w1Records pReq recs =
      (recs.filter fun r => Answers (w1Req pReq) r.2).map fun r =>
        (r.2, decide (r.1 = ackStatVal)) := by
  simp only [w1Records, w1Fltr_eq_zero_iff]

/-- The connector messages the second layer keeps: the replies that carry data. -/
def kept (seq : UInt32) (cns : List CnRecords) : List CnRecords :=
  (cns.filter fun c => c.IsReply seq).filter fun c => c.recs ≠ []

/-- What the second layer makes of connector messages: one ack for each that it keeps. -/
def frames (seq : UInt32) (cns : List CnRecords) : List UInt8 :=
  (kept seq cns).flatMap fun c => leBytes 4 c.ack.toNat ++ c.recs.flatMap W1NetlinkMsg.toBytes

/-- A connector message carries data exactly when it holds a w1 message. -/
private theorem data_pos_iff (c : CnRecords) : 0 < c.toCnMsg.data.length ↔ c.recs ≠ [] := by
  rcases hc : c.recs with _ | ⟨r, rs⟩
  · simp [CnRecords.toCnMsg, hc]
  · simp [CnRecords.toCnMsg, hc, sizeofW1NetlinkMsg]

theorem ackFrames_eq (pReq : CnMsg) (cns : List CnRecords) :
    (keptCnMsgs pReq (cns.flatMap fun c => c.toCnMsg.toBytes)).flatMap ackFrame =
      frames pReq.seq cns := by
  have hchain : cnParser.chain (cns.flatMap fun c => c.toCnMsg.toBytes) =
      cns.map CnRecords.toCnMsg := by
    rw [← List.flatMap_map, RecordParser.chain_flatMap cnParser_recognises _ cnParser_nil]
  rw [keptCnMsgs, hchain, List.filter_map, List.flatMap_map, frames, kept, List.filter_filter]
  congr 1
  refine List.filter_congr fun c _ => ?_
  simp only [Function.comp_apply, cnFltr_eq_zero_iff, data_pos_iff, Bool.decide_and, and_comm]

/-- What the code does with a well-formed datagram. -/
theorem recvDatagram_toBytes {σ : Type*} (w : WordSize) {fuel : ℕ}
    (hfuel : maxW1NetlinkMsgSz < fuel) (pReq : CnMsg) (recvCb : RecvW1msgCb σ) (d : Datagram)
    (s : RecvState σ) :
    ∃ s', recvDatagram w fuel pReq recvCb d.toBytes s = some (.ok s') ∧
      (s'.moreStat, s'.priv) =
        deliver recvCb (w1Records pReq (ackW1Parser.chain (frames pReq.seq d.received)))
          (s.moreStat, s.priv) := by
  have hd := recvDatagram_eq w pReq recvCb hfuel d.toBytes s
  rw [nlChain_take_toBytes] at hd
  rw [← ackFrames_eq, Datagram.received, List.flatMap_assoc]
  exact hd

/-! ### What a request is handed -/

/-- The code hands exactly the answers to a request, in order and until the callback answers
`w1msg_no_more`, whatever request with the sequence number is pending, whatever the callback
does and wherever the receive loop is. -/
def HandsExactly (w : WordSize) (d : Datagram) (seq : UInt32) : Prop :=
  ∀ pReq : CnMsg, pReq.seq = seq → ∀ (σ : Type) (recvCb : RecvW1msgCb σ) (fuel : ℕ),
    maxW1NetlinkMsgSz < fuel → ∀ s : RecvState σ,
      ∃ s', recvDatagram w fuel pReq recvCb d.toBytes s = some (.ok s') ∧
        (s'.moreStat, s'.priv) = deliver recvCb (d.answers pReq) (s.moreStat, s.priv)

/-- A callback that writes down what it is called with. -/
private def record : RecvW1msgCb (List (W1NetlinkMsg × Bool)) :=
  fun priv w1msg isStatus => (.moreReq, priv ++ [(w1msg, isStatus)])

private theorem deliver_record (rs acc : List (W1NetlinkMsg × Bool)) :
    deliver record rs (.moreReq, acc) = (.moreReq, acc ++ rs) := by
  induction rs generalizing acc with
  | nil => simp [deliver]
  | cons r rs ih =>
    rw [deliver_cons r rs (by simp)]
    exact (ih (acc ++ [r])).trans (by simp)

/-- Handing on exactly the answers is a matter of the records that the last layer finds. One
direction takes a callback that writes down what it is called with. -/
theorem handsExactly_iff_records (w : WordSize) (d : Datagram) (seq : UInt32) :
    HandsExactly w d seq ↔ ∀ pReq : CnMsg, pReq.seq = seq →
      w1Records pReq (ackW1Parser.chain (frames seq d.received)) = d.answers pReq := by
  constructor
  · intro h pReq hseq
    have hfuel : maxW1NetlinkMsgSz < maxW1NetlinkMsgSz + 1 := Nat.lt_succ_self _
    obtain ⟨s₁, hrun₁, hs₁⟩ := h pReq hseq _ record _ hfuel ⟨fun _ => 0, .moreReq, []⟩
    obtain ⟨s₂, hrun₂, hs₂⟩ :=
      recvDatagram_toBytes w hfuel pReq record d ⟨fun _ => 0, .moreReq, []⟩
    obtain rfl : s₁ = s₂ := by
      rw [hrun₁] at hrun₂
      exact Except.ok.inj (Option.some.inj hrun₂)
    rw [hs₁, deliver_record, deliver_record, hseq] at hs₂
    simpa using (Prod.mk.inj hs₂).2.symm
  · intro h pReq hseq σ recvCb fuel hfuel s
    obtain ⟨s', hrun, hs'⟩ := recvDatagram_toBytes w hfuel pReq recvCb d s
    refine ⟨s', hrun, ?_⟩
    rw [hs', hseq, h pReq hseq]

/-- With at most one w1 message to each reply, the acks are where the last layer looks for
them. -/
theorem frames_eq_of_length_le_one {seq : UInt32} {cns : List CnRecords}
    (h : ∀ c ∈ cns, c.IsReply seq → c.recs.length ≤ 1) :
    frames seq cns = (ackedReplies seq cns).flatMap ackedBytes := by
  induction cns with
  | nil => rfl
  | cons c cns ih =>
    have hrest := ih fun c' hc' => h c' (List.mem_cons_of_mem _ hc')
    simp only [frames, kept, ackedReplies] at hrest ⊢
    by_cases hc : c.IsReply seq
    · have hlen := h c List.mem_cons_self hc
      -- no w1 message and no ack, or one of each
      rcases hrecs : c.recs with _ | ⟨r, _ | ⟨r', rs⟩⟩
      · simpa [hc, hrecs, CnRecords.acked] using hrest
      · simpa [hc, hrecs, CnRecords.acked, ackedBytes] using hrest
      · simp [hrecs] at hlen
    · simpa [hc] using hrest

/-- The room a w1 message takes up behind an ack of its own. -/
def ackedSize (r : UInt32 × W1NetlinkMsg) : ℕ := 4 + sizeofW1NetlinkMsg + r.2.len

/-- The records the last layer finds take up no more room than there is. -/
theorem sum_ackedSize_chain_le (bs : List UInt8) :
    ((ackW1Parser.chain bs).map ackedSize).sum ≤ bs.length := by
  refine RecordParser.sum_size_chain_le ackedSize ?_ bs
  intro bs r rest h
  obtain ⟨hle, h⟩ := Option.ite_none_right_eq_some.mp h
  obtain ⟨rfl, rfl⟩ := Prod.mk.inj (Option.some.inj h)
  simp only [ackedSize, W1NetlinkMsg.len, w1MsgAt, Mem.length_read, List.length_drop]
  omega

/-- The room a reply takes up in the second layer. -/
private def frameSize (c : CnRecords) : ℕ :=
  if c.recs = [] then 0 else 4 + (c.recs.flatMap W1NetlinkMsg.toBytes).length

private theorem length_frames (seq : UInt32) (cns : List CnRecords) :
    (frames seq cns).length = ((cns.filter fun c => c.IsReply seq).map frameSize).sum := by
  rw [frames, kept]
  induction cns.filter fun c => c.IsReply seq with
  | nil => rfl
  | cons c cs ih =>
    by_cases hc : c.recs = [] <;> simp [hc, frameSize] at ih ⊢ <;> omega

/-- The room a reply would take up with an ack to each of its w1 messages. -/
private theorem sum_ackedSize_acked (c : CnRecords) :
    (c.acked.map ackedSize).sum =
      4 * c.recs.length + (c.recs.flatMap W1NetlinkMsg.toBytes).length := by
  simp only [CnRecords.acked]
  induction c.recs with
  | nil => rfl
  | cons r rs ih =>
    simp only [List.map_cons, List.sum_cons, ackedSize, List.length_cons, List.flatMap_cons,
      List.length_append, W1NetlinkMsg.length_toBytes] at ih ⊢
    omega

private theorem frameSize_le (c : CnRecords) : frameSize c ≤ (c.acked.map ackedSize).sum := by
  rw [sum_ackedSize_acked, frameSize]
  split
  · omega
  · next h =>
    have := List.length_pos_of_ne_nil h
    omega

private theorem frameSize_lt {c : CnRecords} (h : 1 < c.recs.length) :
    frameSize c < (c.acked.map ackedSize).sum := by
  have hne : c.recs ≠ [] := List.ne_nil_of_length_pos (by omega)
  rw [sum_ackedSize_acked, frameSize, if_neg hne]
  omega

private theorem sum_ackedReplies (seq : UInt32) (cns : List CnRecords) :
    ((ackedReplies seq cns).map ackedSize).sum =
      ((cns.filter fun c => c.IsReply seq).map fun c => (c.acked.map ackedSize).sum).sum := by
  rw [ackedReplies, List.map_flatMap, List.flatMap_def, List.sum_flatten, List.map_map]
  rfl

/-- A request for the answers of which a w1 message is one. -/
private def requestFor (seq : UInt32) (m : W1NetlinkMsg) : CnMsg where
  idx := cnW1Idx
  val := cnW1Val
  seq := seq
  ack := ackStatVal
  flags := 0
  data := { m with data := [], data_lt := by simp }.toBytes
  data_lt := by simp [W1NetlinkMsg.len, sizeofW1NetlinkMsg]

private theorem answers_requestFor (seq : UInt32) (m x : W1NetlinkMsg) :
    Answers (w1Req (requestFor seq m)) x ↔ Answers m x := by
  have hreq : w1Req (requestFor seq m) = { m with data := [], data_lt := by simp } :=
    W1NetlinkMsg.w1MsgAt_toBytes _
  rw [hreq]
  rfl

/-- Handing every request exactly its answers leaves no choice in the w1 messages found, their
order apart. -/
private theorem perm_of_records (seq : UInt32) {A E : List (UInt32 × W1NetlinkMsg)}
    (h : ∀ pReq : CnMsg, pReq.seq = seq → w1Records pReq A = w1Records pReq E) :
    (A.map Prod.snd).Perm (E.map Prod.snd) := by
  refine List.perm_iff_count.mpr fun m => ?_
  have hfilter : ∀ L : List (UInt32 × W1NetlinkMsg),
      (L.map Prod.snd).count m =
        ((w1Records (requestFor seq m) L).map Prod.fst).count m := by
    intro L
    have hself : Answers m m := ⟨rfl, fun _ => rfl, fun _ => rfl⟩
    simp only [w1Records_eq, answers_requestFor, List.map_map]
    induction L with
    | nil => rfl
    | cons r L ih =>
      by_cases hr : Answers m r.2
      · simp [hr, List.count_cons, ih]
      · have hne : r.2 ≠ m := fun heq => hr (heq ▸ hself)
        simp [hr, List.count_cons_of_ne hne, ih]
  rw [hfilter A, hfilter E, h _ rfl]

/-- Everything that answers a request is among the replies received and those cut off. -/
private theorem ackedReplies_cns (d : Datagram) (seq : UInt32) :
    ackedReplies seq d.cns = ackedReplies seq d.received ++ ackedReplies seq d.cutOff := by
  rw [← d.received_append_cutOff, ackedReplies, List.filter_append, List.flatMap_append]
  rfl

/-- With one ack to each w1 message, and nothing cut off, every request is handed exactly its
answers. -/
theorem handsExactly_of_one (w : WordSize) {d : Datagram} {seq : UInt32}
    (hone : ∀ c ∈ d.received, c.IsReply seq → c.recs.length ≤ 1)
    (hcut : ∀ c ∈ d.cutOff, c.IsReply seq → c.recs = []) : HandsExactly w d seq := by
  rw [handsExactly_iff_records]
  intro pReq hseq
  have hnone : ackedReplies seq d.cutOff = [] := by
    refine List.flatMap_eq_nil_iff.mpr fun c hc => ?_
    obtain ⟨hmem, hreply⟩ := List.mem_filter.mp hc
    rw [CnRecords.acked, hcut c hmem (by simpa using hreply), List.map_nil]
  rw [frames_eq_of_length_le_one hone,
    RecordParser.chain_flatMap ackW1Parser_recognises _ ackW1Parser_nil, w1Records_eq,
    Datagram.answers, hseq, ackedReplies_cns, hnone, List.append_nil]

/-- When every request is handed exactly its answers, an ack for each of the w1 messages, of
those cut off too, takes up no more room than the acks the second layer lays out. -/
private theorem sum_ackedSize_le_of_handsExactly {w : WordSize} {d : Datagram} {seq : UInt32}
    (h : HandsExactly w d seq) :
    ((d.received.filter fun c => c.IsReply seq).map fun c =>
        (c.acked.map ackedSize).sum).sum + ((ackedReplies seq d.cutOff).map ackedSize).sum ≤
      ((d.received.filter fun c => c.IsReply seq).map frameSize).sum := by
  rw [handsExactly_iff_records] at h
  have hperm : ((ackW1Parser.chain (frames seq d.received)).map Prod.snd).Perm
      ((ackedReplies seq d.cns).map Prod.snd) := by
    refine perm_of_records seq fun pReq hseq => ?_
    rw [h pReq hseq, w1Records_eq, Datagram.answers, hseq]
  have hsum : ((ackW1Parser.chain (frames seq d.received)).map ackedSize).sum =
      ((ackedReplies seq d.cns).map ackedSize).sum := by
    have := (hperm.map fun m => 4 + sizeofW1NetlinkMsg + m.len).sum_eq
    rw [List.map_map, List.map_map] at this
    exact this
  have hle := sum_ackedSize_chain_le (frames seq d.received)
  rwa [hsum, ackedReplies_cns, List.map_append, List.sum_append, length_frames,
    sum_ackedReplies] at hle

/-- A reply that holds a second w1 message, or one that is cut off, keeps some request from
being handed its answers. -/
theorem one_of_handsExactly {w : WordSize} {d : Datagram} {seq : UInt32}
    (h : HandsExactly w d seq) :
    (∀ c ∈ d.received, c.IsReply seq → c.recs.length ≤ 1) ∧
      ∀ c ∈ d.cutOff, c.IsReply seq → c.recs = [] := by
  have hle := sum_ackedSize_le_of_handsExactly h
  constructor
  · intro c hc hreply
    by_contra hlen
    -- its second w1 message has no room for an ack of its own
    have hlt : ((d.received.filter fun c => c.IsReply seq).map frameSize).sum <
        ((d.received.filter fun c => c.IsReply seq).map fun c =>
          (c.acked.map ackedSize).sum).sum :=
      List.sum_lt_sum _ _ (fun c _ => frameSize_le c)
        ⟨c, List.mem_filter.mpr ⟨hc, by simpa using hreply⟩, frameSize_lt (by omega)⟩
    omega
  · intro c hc hreply
    by_contra hne
    have hpos := List.length_pos_of_ne_nil hne
    have hframes : ((d.received.filter fun c => c.IsReply seq).map frameSize).sum ≤
        ((d.received.filter fun c => c.IsReply seq).map fun c =>
          (c.acked.map ackedSize).sum).sum :=
      List.sum_le_sum fun c _ => frameSize_le c
    have hmem : (c.acked.map ackedSize).sum ≤
        ((ackedReplies seq d.cutOff).map ackedSize).sum := by
      rw [sum_ackedReplies]
      exact List.single_le_sum (by simp) _ (List.mem_map.mpr
        ⟨c, List.mem_filter.mpr ⟨hc, by simpa using hreply⟩, rfl⟩)
    rw [sum_ackedSize_acked] at hmem
    omega

/-- **One ack to a connector message.** The code hands every request exactly its answers if
and only if no reply that was received holds more than one w1 message and no reply that was
cut off holds any. -/
theorem handsExactly_iff (w : WordSize) (d : Datagram) (seq : UInt32) :
    HandsExactly w d seq ↔
      (∀ c ∈ d.received, c.IsReply seq → c.recs.length ≤ 1) ∧
        ∀ c ∈ d.cutOff, c.IsReply seq → c.recs = [] :=
  ⟨one_of_handsExactly, fun h => handsExactly_of_one w h.1 h.2⟩

/-- What a request is handed of the part of a datagram that arrives. -/
def Datagram.arrived (d : Datagram) (pReq : CnMsg) : List (W1NetlinkMsg × Bool) :=
  ((ackedReplies pReq.seq d.received).filter fun r => Answers (w1Req pReq) r.2).map fun r =>
    (r.2, decide (r.1 = ackStatVal))

/-- Of a datagram that fits the receive buffer everything arrives. -/
theorem Datagram.arrived_of_fits {d : Datagram} (h : d.Fits) (pReq : CnMsg) :
    d.arrived pReq = d.answers pReq := by
  rw [Datagram.arrived, d.received_of_fits h, Datagram.answers]

/-- No reply that arrives holds more than one w1 message. -/
def Datagram.IsPlain (d : Datagram) (seq : UInt32) : Prop :=
  ∀ c ∈ d.received, c.IsReply seq → c.recs.length ≤ 1

/-- A request is handed what arrives of a plain datagram. -/
theorem Datagram.IsPlain.recvDatagram {σ : Type*} (w : WordSize) {fuel : ℕ}
    (hfuel : maxW1NetlinkMsgSz < fuel) {pReq : CnMsg} (recvCb : RecvW1msgCb σ) {d : Datagram}
    (h : d.IsPlain pReq.seq) (s : RecvState σ) :
    ∃ s', Librasp.recvDatagram w fuel pReq recvCb d.toBytes s = some (.ok s') ∧
      (s'.moreStat, s'.priv) = deliver recvCb (d.arrived pReq) (s.moreStat, s.priv) := by
  obtain ⟨s', hrun, hs'⟩ := recvDatagram_toBytes w hfuel pReq recvCb d s
  refine ⟨s', hrun, ?_⟩
  rw [hs', frames_eq_of_length_le_one h,
    RecordParser.chain_flatMap ackW1Parser_recognises _ ackW1Parser_nil, w1Records_eq,
    Datagram.arrived]

/-- The w1 messages that a request is handed of a plain datagram, as the reference has them. -/
theorem Datagram.IsPlain.records {pReq : CnMsg} {d : Datagram} (h : d.IsPlain pReq.seq) :
    Librasp.records pReq ((receivedWithin maxW1NetlinkMsgSz d.nlMsgs).flatMap NlMsg.payload) =
      d.arrived pReq := by
  have hflat : (receivedWithin maxW1NetlinkMsgSz d.nlMsgs).flatMap NlMsg.payload =
      d.received.flatMap fun c => c.toCnMsg.toBytes := by
    rw [Datagram.received, List.flatMap_assoc]
    rfl
  rw [Librasp.records, hflat, ackFrames_eq, frames_eq_of_length_le_one h,
    RecordParser.chain_flatMap ackW1Parser_recognises _ ackW1Parser_nil, w1Records_eq,
    Datagram.arrived]

/-- Datagrams as the receive loop meets them. -/
def recvEvents (ds : List Datagram) : List RecvEvent := ds.map fun d => .datagram d.toBytes

/-- A run of plain datagrams that ends with a timeout. The induction is on the datagrams; the
number of them stays below what the counter can hold. -/
theorem recvLoop_datagrams {σ : Type} (w : WordSize) {fuel : ℕ}
    (hfuel : maxW1NetlinkMsgSz < fuel) (pReq : CnMsg) (recvCb : RecvW1msgCb σ)
    {ds : List Datagram} (hds : ∀ d ∈ ds, d.IsPlain pReq.seq) {n : ℕ}
    (hn : n + ds.length < 2 ^ 32) (es : List RecvEvent) (s : RecvState σ) :
    recvLoop w fuel pReq recvCb (recvEvents ds ++ .pollTimeout :: es) n s =
      let r := deliver recvCb (ds.flatMap fun d => d.arrived pReq) (s.moreStat, s.priv)
      some (if n + ds.length = 0 ∨ r.1 = .moreReq then .noResp else .success, r.2) := by
  induction ds generalizing n s with
  | nil =>
    simp only [recvEvents, List.map_nil, List.nil_append, recvLoop, List.flatMap_nil, deliver,
      List.length_nil, Nat.add_zero]
    by_cases h0 : n = 0
    · simp [h0]
    · by_cases hms : s.moreStat = .moreReq <;> simp [h0, hms]
  | cons d ds ih =>
    rw [List.length_cons] at hn
    obtain ⟨s', hrun, hs'⟩ := (hds d List.mem_cons_self).recvDatagram w hfuel recvCb s
    have hmod : (n + 1) % 2 ^ 32 = n + 1 := Nat.mod_eq_of_lt (by omega)
    have hrest := ih (fun d' hd' => hds d' (List.mem_cons_of_mem _ hd')) (n := n + 1) (by omega) s'
    have hpos : n + 1 + ds.length ≠ 0 := by omega
    have hpos' : n + (ds.length + 1) ≠ 0 := by omega
    have hevents : recvEvents (d :: ds) ++ .pollTimeout :: es =
        .datagram d.toBytes :: (recvEvents ds ++ .pollTimeout :: es) := rfl
    rw [hevents, recvLoop, hrun]
    dsimp only
    rw [hmod, hrest, List.flatMap_cons, deliver_append, ← hs', List.length_cons]
    simp only [hpos, hpos', false_or]

/-- `recv_w1msg` on plain datagrams and a timeout after the last of them. -/
theorem recvW1msg_datagrams {σ : Type} (w : WordSize) {fuel : ℕ}
    (hfuel : maxW1NetlinkMsgSz < fuel) {pReq : CnMsg} (hreq : 0 < pReq.data.length)
    (recvCb : RecvW1msgCb σ) {ds : List Datagram} (hds : ∀ d ∈ ds, d.IsPlain pReq.seq)
    (hlen : ds.length < 2 ^ 32) (es : List RecvEvent) (stale : Mem UInt8) (priv : σ) :
    recvW1msg w fuel pReq recvCb stale priv (recvEvents ds ++ .pollTimeout :: es) =
      let r := deliver recvCb (ds.flatMap fun d => d.arrived pReq) (.moreReq, priv)
      some (if ds.length = 0 ∨ r.1 = .moreReq then .noResp else .success, r.2) := by
  have hloop := recvLoop_datagrams w hfuel pReq recvCb hds (n := 0) (by omega) es
    ⟨stale, .moreReq, priv⟩
  rw [Nat.zero_add] at hloop
  rw [recvW1msg, if_neg (by omega), hloop]

/-- One reply that holds one w1 message. -/
def replyCn (seq ack : UInt32) (w1msg : W1NetlinkMsg) (h : w1msg.toBytes.length < 65536) :
    CnRecords :=
  ⟨cnW1Idx, cnW1Val, seq, ack, 0, [w1msg],
    lt_of_eq_of_lt (congrArg List.length (List.append_nil _)) h⟩

theorem len_replyCn_lt {seq ack : UInt32} {w1msg : W1NetlinkMsg}
    (h : w1msg.toBytes.length < 65536) :
    nlmsgHdrlen + ([replyCn seq ack w1msg h].flatMap fun c => c.toCnMsg.toBytes).length <
      2 ^ 32 := by
  have hdata := (replyCn seq ack w1msg h).toCnMsg.data_lt
  rw [List.flatMap_singleton, CnMsg.length_toBytes, nlmsgHdrlen, sizeofCnMsg]
  omega

/-- A datagram with one reply that holds one w1 message. -/
def singleReply (seq ack : UInt32) (w1msg : W1NetlinkMsg) (h : w1msg.toBytes.length < 65536) :
    Datagram where
  msgs := []
  last :=
    { nlmsgType := nlmsgDone
      nlmsgFlags := 0
      nlmsgSeq := seq
      nlmsgPid := 0
      cns := [replyCn seq ack w1msg h]
      pad := []
      len_lt := len_replyCn_lt h }
  multi := fun _ hm => absurd hm List.not_mem_nil
  last_done := rfl

theorem fits_singleReply {seq ack : UInt32} {w1msg : W1NetlinkMsg}
    (h : w1msg.toBytes.length < 65536) (hfits : w1msg.toBytes.length ≤ 4076) :
    (singleReply seq ack w1msg h).Fits := by
  have hdata : ((replyCn seq ack w1msg h).recs.flatMap W1NetlinkMsg.toBytes).length =
      w1msg.toBytes.length := congrArg List.length (List.append_nil _)
  rw [Datagram.Fits, Datagram.toBytes, Datagram.nlMsgs]
  simp only [singleReply, List.nil_append, List.flatMap_cons, List.flatMap_nil,
    List.append_nil, NlMsg.length_toBytes, NlMsg.len, NlMsg.payload, CnMsg.length_toBytes,
    CnRecords.toCnMsg, nlmsgHdrlen, sizeofCnMsg, maxW1NetlinkMsgSz, List.length_nil]
  omega

/-- The connector message of a datagram with one reply. -/
theorem cns_singleReply {seq ack : UInt32} {w1msg : W1NetlinkMsg}
    (h : w1msg.toBytes.length < 65536) :
    (singleReply seq ack w1msg h).cns = [replyCn seq ack w1msg h] := rfl

theorem isPlain_singleReply {seq ack : UInt32} {w1msg : W1NetlinkMsg}
    (h : w1msg.toBytes.length < 65536) (hfits : w1msg.toBytes.length ≤ 4076) (seq' : UInt32) :
    (singleReply seq ack w1msg h).IsPlain seq' := by
  rintro c hc -
  rw [Datagram.received_of_fits _ (fits_singleReply h hfits), cns_singleReply,
    List.mem_singleton] at hc
  rw [hc]
  exact le_rfl

/-- What a request is handed from a datagram with one reply. -/
theorem arrived_singleReply {pReq : CnMsg} {ack : UInt32} {w1msg : W1NetlinkMsg}
    (h : w1msg.toBytes.length < 65536) (hfits : w1msg.toBytes.length ≤ 4076)
    (hans : Answers (w1Req pReq) w1msg) :
    (singleReply pReq.seq ack w1msg h).arrived pReq = [(w1msg, decide (ack = ackStatVal))] := by
  have hreply : (replyCn pReq.seq ack w1msg h).IsReply pReq.seq := ⟨rfl, rfl, rfl⟩
  have hacked : (replyCn pReq.seq ack w1msg h).acked = [(ack, w1msg)] := rfl
  rw [Datagram.arrived, Datagram.received_of_fits _ (fits_singleReply h hfits), cns_singleReply]
  simp [ackedReplies, hreply, hacked, hans]

/-- A datagram with one connector message that holds two lists of masters, of one master
each. -/
def twoListings : Datagram where
  msgs := []
  last :=
    { nlmsgType := nlmsgDone
      nlmsgFlags := 0
      nlmsgSeq := 0
      nlmsgPid := 0
      cns := [
        { idx := cnW1Idx
          val := cnW1Val
          seq := 0
          ack := 1
          flags := 0
          recs := [⟨w1ListMasters, 0, 0, [1, 0, 0, 0], by decide⟩,
            ⟨w1ListMasters, 0, 0, [2, 0, 0, 0], by decide⟩]
          data_lt := by decide }]
      pad := []
      len_lt := by decide }
  multi := fun _ hm => absurd hm List.not_mem_nil
  last_done := rfl

/-- The second list of masters is not handed on. -/
theorem not_handsExactly_twoListings : ¬ HandsExactly .lp64 twoListings 0 := by
  intro h
  have hone := (one_of_handsExactly h).1
  have hall : ∀ c ∈ twoListings.received, c.IsReply 0 → c.recs.length ≤ 1 := hone
  revert hall
  decide

end Librasp
