import Librasp.W1.Datagram
import Librasp.W1.Exec

/-!
# What the kernel makes of a message

`decodeRequest` takes a datagram apart as the receiving side does: one netlink message, one
connector message in it, one w1 message in that, and the w1 commands in the data of the w1
message, each layer read to its end. The datagram that `w1_msg_exec` sends decodes to the message
it was given (`w1MsgExec_sent`, `decodeRequest_requestBytes`).

* The decoder is made of the record parsers of `Netlink`, by their rules for chains; it knows
  nothing of how a message is encoded.
* `W1Msg.wireMsg` is the w1 message that a message of the library stands for. The bound on
  `msg_buf` keeps every length field small, so that none of them is cut to its 16 bits.

**Main result.** `decodeRequest_w1MsgExec`: the type and id of the message, and its commands in
order, with their data from the caller's memory, and the headers of the layers around it.
-/

namespace Librasp

/-- A request, taken apart. -/
structure DecodedRequest where
  nlmsg : Nlmsghdr
  cnmsg : CnMsg
  w1msg : W1NetlinkMsg
  w1cmds : List W1NetlinkCmd
  deriving DecidableEq

/-- Take a request apart. The datagram is the netlink message and what aligns its length, and
every layer holds exactly what its length field says. -/
def decodeRequest (bs : List UInt8) : Option DecodedRequest :=
  let nlmsg := nlmsghdrAt (ofBytes bs) 0
  let n := nlmsg.nlmsgLen.toNat
  if bs.length = nlmsgAlign n ∧ bs.drop n = List.replicate (nlmsgAlign n - n) 0 then
    match cnParser.parseAll ((bs.take n).drop nlmsgHdrlen) with
    | some [cnmsg] =>
      match W1NetlinkMsg.parser.parseAll cnmsg.data with
      | some [w1msg] =>
        (W1NetlinkCmd.parser.parseAll w1msg.data).map fun w1cmds => ⟨nlmsg, cnmsg, w1msg, w1cmds⟩
      | _ => none
    | _ => none
  else none

/-- A single encoded record is parsed to its end. -/
theorem RecordParser.parseAll_single {α ρ : Type*} {P : RecordParser α ρ} {enc : ρ → List α}
    (hP : P.Recognises enc) (r : ρ) : P.parseAll (enc r) = some [r] := by
  simpa using parseAll_flatMap hP [r]

/-- The datagram of a request decodes to the w1 message in it. Each layer is one record that is
read to its end, whose length field was computed from what is in it. -/
theorem decodeRequest_requestBytes (seq : UInt32) (w1msg : W1NetlinkMsg)
    (w1cmds : List W1NetlinkCmd) (hcmds : w1msg.data = w1cmds.flatMap W1NetlinkCmd.toBytes)
    (h : w1msg.toBytes.length < 65536) :
    decodeRequest (requestBytes seq w1msg.toBytes h) =
      some ⟨requestHdr seq w1msg.toBytes, requestMsg seq w1msg.toBytes h, w1msg, w1cmds⟩ := by
  obtain ⟨n, hn⟩ : ∃ n, n = nlmsgLength (sizeofCnMsg + w1msg.toBytes.length) := ⟨_, rfl⟩
  have halign := le_nlmsgAlign n
  have hhdr : nlmsghdrAt (ofBytes (requestBytes seq w1msg.toBytes h)) 0 =
      requestHdr seq w1msg.toBytes := nlmsghdrAt_toBytes _ _
  have hlen : (requestHdr seq w1msg.toBytes).nlmsgLen.toNat = n := by
    have hlt : nlmsgLength (sizeofCnMsg + w1msg.toBytes.length) < 2 ^ 32 := by
      simp only [nlmsgLength, sizeofCnMsg, nlmsgHdrlen]
      omega
    rw [hn]
    exact UInt32.toNat_ofNat_of_lt' hlt
  have h16 : (requestHdr seq w1msg.toBytes).toBytes.length = nlmsgHdrlen :=
    Nlmsghdr.length_toBytes _
  have hcn : (requestMsg seq w1msg.toBytes h).toBytes.length =
      sizeofCnMsg + w1msg.toBytes.length := CnMsg.length_toBytes _
  have hfront : ((requestHdr seq w1msg.toBytes).toBytes ++
      (requestMsg seq w1msg.toBytes h).toBytes).length = n := by
    rw [List.length_append, h16, hcn, hn, nlmsgLength]
    omega
  -- the datagram is the two headers and the message, and what aligns them
  have hbs : requestBytes seq w1msg.toBytes h = ((requestHdr seq w1msg.toBytes).toBytes ++
      (requestMsg seq w1msg.toBytes h).toBytes) ++ List.replicate (nlmsgAlign n - n) 0 := by
    rw [requestBytes, ← hn, List.append_assoc]
  have htotal : (requestBytes seq w1msg.toBytes h).length = nlmsgAlign n := by
    rw [hbs, List.length_append, hfront, List.length_replicate]
    omega
  have htail : (requestBytes seq w1msg.toBytes h).drop n =
      List.replicate (nlmsgAlign n - n) 0 := by
    rw [hbs, List.drop_left' hfront]
  have hpayload : ((requestBytes seq w1msg.toBytes h).take n).drop nlmsgHdrlen =
      (requestMsg seq w1msg.toBytes h).toBytes := by
    rw [hbs, List.take_left' hfront, List.drop_left' h16]
  have hdata : (requestMsg seq w1msg.toBytes h).data = w1msg.toBytes := rfl
  simp only [decodeRequest, hhdr, hlen, htail, htotal, and_self, if_true, hpayload,
    RecordParser.parseAll_single cnParser_recognises, hdata,
    RecordParser.parseAll_single W1NetlinkMsg.parser_recognises, hcmds,
    RecordParser.parseAll_flatMap W1NetlinkCmd.parser_recognises, Option.map_some]

section Sent

variable {cfg : Config} {m : W1Msg} {mem : Mem UInt8}

/-- The w1 message that a message is sent as. -/
def W1Msg.wireMsg (cfg : Config) (mem : Mem UInt8) (m : W1Msg)
    (h : (m.wireCmds cfg mem).length < 65536) : W1NetlinkMsg :=
  ⟨m.wireType, 0, m.wireId, m.wireCmds cfg mem, h⟩

/-- The size bound of `msg_buf` keeps every length field small. -/
theorem length_wireCmds_lt (hsize : sizeofW1NetlinkMsg + m.cmdsSize ≤ sizeofMsgBuf) :
    (m.wireCmds cfg mem).length < 65536 := by
  have hbuf : sizeofMsgBuf < 65536 := by decide
  rw [W1Msg.length_wireCmds]
  omega

/-- What `send_recv_w1msg` is passed: the length is read back from the header in `msg_buf`, and it
is that of the whole message. -/
theorem fillMsgBuf_read_len (hm : m.WellFormed cfg)
    (hsize : sizeofW1NetlinkMsg + m.cmdsSize ≤ sizeofMsgBuf) (mem buf : Mem UInt8) :
    (fillMsgBuf cfg mem m buf).read 0
        (sizeofW1NetlinkMsg + w1MsgLenAt (fillMsgBuf cfg mem m buf) 0) =
      (m.wireMsg cfg mem (length_wireCmds_lt hsize)).toBytes := by
  have hread := fillMsgBuf_read hm mem buf hsize
  have hbytes : m.wireHdr ++ m.wireCmds cfg mem =
      (m.wireMsg cfg mem (length_wireCmds_lt hsize)).toBytes := by
    have hlen : (m.wireMsg cfg mem (length_wireCmds_lt hsize)).len = m.cmdsSize :=
      W1Msg.length_wireCmds ..
    rw [W1NetlinkMsg.toBytes, hlen, W1Msg.wireHdr]
    simp only [W1Msg.wireMsg, List.append_assoc]
  have hlen : w1MsgLenAt (fillMsgBuf cfg mem m buf) 0 = m.cmdsSize := by
    have hat : w1MsgLenAt (ofBytes ((fillMsgBuf cfg mem m buf).read 0
        (sizeofW1NetlinkMsg + m.cmdsSize))) 0 =
          w1MsgLenAt (fillMsgBuf cfg mem m buf) 0 := by
      rw [w1MsgLenAt, u16At_ofBytes_read (by rw [sizeofW1NetlinkMsg]; omega), w1MsgLenAt]
    rw [← hat, hread, hbytes, ← W1Msg.length_wireCmds cfg mem]
    exact W1NetlinkMsg.w1MsgLenAt_toBytes _
  rw [hlen, hread, hbytes]

/-- A message that fits `msg_buf` is sent as one datagram, which is told by the message alone,
whatever the buffers held before. -/
theorem w1MsgExec_sent (hm : m.WellFormed cfg) (hpos : 0 < m.nCmds)
    (hsize : sizeofW1NetlinkMsg + m.cmdsSize ≤ sizeofMsgBuf) (fuel : ℕ) (hndl : W1Hndl)
    (mem msgBuf : Mem UInt8) (env : IoEnv) :
    ∃ h, (w1MsgExec cfg fuel hndl m mem msgBuf env).sent =
      some (requestBytes (hndl.seq % seqRange)
          (m.wireMsg cfg mem (length_wireCmds_lt hsize)).toBytes h,
        requestMsg (hndl.seq % seqRange)
          (m.wireMsg cfg mem (length_wireCmds_lt hsize)).toBytes h) := by
  have hlen : msgLen cfg m = sizeofW1NetlinkMsg + m.cmdsSize := msgLen_eq_of_le hm hsize
  have hbytes : (m.wireMsg cfg mem (length_wireCmds_lt hsize)).toBytes.length =
      sizeofW1NetlinkMsg + m.cmdsSize := by
    rw [W1NetlinkMsg.length_toBytes, W1NetlinkMsg.len, W1Msg.wireMsg, W1Msg.length_wireCmds]
  have hexec : (w1MsgExec cfg fuel hndl m mem msgBuf env).sent =
      (sendRecvW1msg cfg.word fuel hndl (fillMsgBuf cfg mem m msgBuf) (w1msgExecCb cfg)
        (.init m) env).sent := by
    rw [w1MsgExec, if_neg (by omega), if_neg (by omega)]
  rw [hexec]
  obtain ⟨hgt, -⟩ | ⟨-, h, hok⟩ := sendW1msg_cases hndl (fillMsgBuf cfg mem m msgBuf)
    env.sendBuf (fillMsgBuf_read_len hm hsize mem msgBuf)
  · -- what fits `msg_buf` fits `send_buf`
    have halign := nlmsgAlign_lt (nlmsgLength (sizeofCnMsg +
      (m.wireMsg cfg mem (length_wireCmds_lt hsize)).toBytes.length))
    simp only [hbytes, nlmsgLength, sizeofCnMsg, nlmsgHdrlen] at hgt halign
    have hmax : maxW1NetlinkMsgSz = 4112 := rfl
    have hbuf : sizeofMsgBuf = 4076 := rfl
    simp only [nlmsgAlign] at hgt
    omega
  · exact ⟨h, by rw [sendRecvW1msg, hok]⟩

/-- A request that was sent has taken a sequence number. -/
theorem w1MsgExec_hndl {fuel : ℕ} {hndl : W1Hndl} {msgBuf : Mem UInt8} {env : IoEnv}
    {x : List UInt8 × CnMsg} (h : (w1MsgExec cfg fuel hndl m mem msgBuf env).sent = some x) :
    (w1MsgExec cfg fuel hndl m mem msgBuf env).hndl = ⟨hndl.seq + 1⟩ := by
  rw [w1MsgExec] at h ⊢
  by_cases hn : m.nCmds ≤ 0
  · rw [if_pos hn] at h
    cases h
  by_cases hlen : sizeofMsgBuf < msgLen cfg m
  · rw [if_neg hn, if_pos hlen] at h
    cases h
  rw [if_neg hn, if_neg hlen, sendRecvW1msg] at h ⊢
  obtain ⟨-, herr⟩ | ⟨-, hlt, hok⟩ := sendW1msg_cases hndl (fillMsgBuf cfg mem m msgBuf)
    env.sendBuf rfl
  · rw [herr] at h
    cases h
  · rw [hok]

/-- How the result of the replies becomes the result of `w1_msg_exec`. -/
def execRet (r : LrErrc × W1msgExecCbDta) : LrErrc × W1msgExecCbDta :=
  (if r.1 ≠ .success then r.1 else if r.2.status ≠ 0 then .protoErr else .success, r.2)

/-- A message that fits `msg_buf` gets the replies to its request: what it returns is what
`recv_w1msg` makes of the events, with the callback of the message. -/
theorem w1MsgExec_ret (hm : m.WellFormed cfg) (hpos : 0 < m.nCmds)
    (hsize : sizeofW1NetlinkMsg + m.cmdsSize ≤ sizeofMsgBuf) (fuel : ℕ) (hndl : W1Hndl)
    (mem msgBuf : Mem UInt8) {env : IoEnv} (hsend : env.sendOk = true) {req : CnMsg}
    {bs : List UInt8} (hsent : (w1MsgExec cfg fuel hndl m mem msgBuf env).sent = some (bs, req)) :
    (w1MsgExec cfg fuel hndl m mem msgBuf env).ret =
      (recvW1msg cfg.word fuel req (w1msgExecCb cfg) env.recvBuf (.init m) env.events).map
        execRet := by
  have hlen : msgLen cfg m = sizeofW1NetlinkMsg + m.cmdsSize := msgLen_eq_of_le hm hsize
  have hexec : w1MsgExec cfg fuel hndl m mem msgBuf env =
      { sendRecvW1msg cfg.word fuel hndl (fillMsgBuf cfg mem m msgBuf) (w1msgExecCb cfg)
          (.init m) env with
        ret := (sendRecvW1msg cfg.word fuel hndl (fillMsgBuf cfg mem m msgBuf) (w1msgExecCb cfg)
          (.init m) env).ret.map execRet } := by
    rw [w1MsgExec, if_neg (by omega), if_neg (by omega)]
    rfl
  rw [hexec] at hsent ⊢
  dsimp only at hsent ⊢
  obtain ⟨-, herr⟩ | ⟨-, h, hok⟩ := sendW1msg_cases hndl (fillMsgBuf cfg mem m msgBuf)
    env.sendBuf rfl
  · simp [sendRecvW1msg, herr] at hsent
  · simp only [sendRecvW1msg, hok, Option.some.injEq, Prod.mk.injEq] at hsent
    simp only [sendRecvW1msg, hok, hsend, if_true, ← hsent.2]

/-- The request of a message that fits `msg_buf` is not empty. -/
theorem data_pos_of_sent (hm : m.WellFormed cfg) (hpos : 0 < m.nCmds)
    (hsize : sizeofW1NetlinkMsg + m.cmdsSize ≤ sizeofMsgBuf) {fuel : ℕ} {hndl : W1Hndl}
    {mem msgBuf : Mem UInt8} {env : IoEnv} {req : CnMsg} {bs : List UInt8}
    (hsent : (w1MsgExec cfg fuel hndl m mem msgBuf env).sent = some (bs, req)) :
    0 < req.data.length := by
  obtain ⟨h, hsent'⟩ := w1MsgExec_sent hm hpos hsize fuel hndl mem msgBuf env
  rw [hsent'] at hsent
  obtain ⟨-, rfl⟩ := Prod.mk.inj (Option.some.inj hsent)
  simp [requestMsg, sizeofW1NetlinkMsg]

/-- A message that is answered by plain datagrams, with a timeout after the last of them. -/
theorem w1MsgExec_ret_datagrams (hm : m.WellFormed cfg) (hpos : 0 < m.nCmds)
    (hsize : sizeofW1NetlinkMsg + m.cmdsSize ≤ sizeofMsgBuf) {fuel : ℕ}
    (hfuel : maxW1NetlinkMsgSz < fuel) {hndl : W1Hndl} {mem msgBuf : Mem UInt8} {env : IoEnv}
    {ds : List Datagram} (hsend : env.sendOk = true) {es : List RecvEvent}
    (hevents : env.events = recvEvents ds ++ .pollTimeout :: es) {req : CnMsg} {bs : List UInt8}
    (hsent : (w1MsgExec cfg fuel hndl m mem msgBuf env).sent = some (bs, req))
    (hds : ∀ d ∈ ds, d.IsPlain req.seq) (hlen : ds.length < 2 ^ 32) :
    (w1MsgExec cfg fuel hndl m mem msgBuf env).ret =
      let r := deliver (w1msgExecCb cfg) (ds.flatMap fun d => d.arrived req) (.moreReq, .init m)
      some (execRet (if ds.length = 0 ∨ r.1 = .moreReq then .noResp else .success, r.2)) := by
  rw [w1MsgExec_ret hm hpos hsize fuel hndl mem msgBuf hsend hsent, hevents,
    recvW1msg_datagrams cfg.word hfuel (data_pos_of_sent hm hpos hsize hsent) _ hds hlen es]
  rfl

/-- The commands of a message as w1 commands. Each of them is small enough for its length field,
as all of them together are. -/
theorem exists_w1cmds (cfg : Config) (mem : Mem UInt8) {cmds : List W1Cmd}
    (hsize : (cmds.map W1Cmd.size).sum < 65536) :
    ∃ w1cmds : List W1NetlinkCmd,
      cmds.flatMap (W1Cmd.wireBytes cfg mem) = w1cmds.flatMap W1NetlinkCmd.toBytes ∧
        w1cmds.map (fun k => (k.cmd, k.res, k.data)) =
          cmds.map fun c => (convertCmdType cfg c.type, 0, c.wireData mem) := by
  induction cmds with
  | nil => exact ⟨[], rfl, rfl⟩
  | cons c cmds ih =>
    rw [List.map_cons, List.sum_cons] at hsize
    obtain ⟨w1cmds, hbytes, hmap⟩ := ih (by omega)
    have hlt : (c.wireData mem).length < 65536 := by
      have := c.size_eq mem
      omega
    refine ⟨⟨convertCmdType cfg c.type, 0, c.wireData mem, hlt⟩ :: w1cmds, ?_, ?_⟩
    · rw [List.flatMap_cons, List.flatMap_cons, hbytes]
      rfl
    · rw [List.map_cons, List.map_cons, hmap]

/-- What is sent for a message decodes to the headers, the w1 message and the commands that the
message stands for. -/
theorem w1MsgExec_decodes (hm : m.WellFormed cfg) (hpos : 0 < m.nCmds)
    (hsize : sizeofW1NetlinkMsg + m.cmdsSize ≤ sizeofMsgBuf) (fuel : ℕ) (hndl : W1Hndl)
    (mem msgBuf : Mem UInt8) (env : IoEnv) :
    ∃ bs h w1cmds,
      let w1msg := m.wireMsg cfg mem (length_wireCmds_lt hsize)
      let seq := hndl.seq % seqRange
      (w1MsgExec cfg fuel hndl m mem msgBuf env).sent =
          some (bs, requestMsg seq w1msg.toBytes h) ∧
        decodeRequest bs =
          some ⟨requestHdr seq w1msg.toBytes, requestMsg seq w1msg.toBytes h, w1msg, w1cmds⟩ ∧
        w1cmds.map (fun k => (k.cmd, k.res, k.data)) =
          m.cmdList.map fun c => (convertCmdType cfg c.type, 0, c.wireData mem) := by
  obtain ⟨h, hsent⟩ := w1MsgExec_sent hm hpos hsize fuel hndl mem msgBuf env
  have hbuf : sizeofMsgBuf = 4076 := rfl
  have hcmds : (m.cmdList.map W1Cmd.size).sum < 65536 := by
    rw [← W1Msg.cmdsSize]
    omega
  obtain ⟨w1cmds, hbytes, hmap⟩ := exists_w1cmds cfg mem hcmds
  exact ⟨_, h, w1cmds, hsent, decodeRequest_requestBytes _ _ w1cmds hbytes h, hmap⟩

/-- **Round trip.** What `w1_msg_exec` sends for a message that the builder functions produced
and that fits `msg_buf` decodes to the message: its type and id, and its commands in order,
each with its own code and data. -/
theorem decodeRequest_w1MsgExec (hm : Built cfg m) (hpos : 0 < m.nCmds)
    (hsize : sizeofW1NetlinkMsg + m.cmdsSize ≤ sizeofMsgBuf) (fuel : ℕ) (hndl : W1Hndl)
    (mem msgBuf : Mem UInt8) (env : IoEnv) :
    ∃ bs req d, (w1MsgExec cfg fuel hndl m mem msgBuf env).sent = some (bs, req) ∧
      decodeRequest bs = some d ∧
      d.nlmsg = ⟨.ofNat (nlmsgHdrlen + sizeofCnMsg + sizeofW1NetlinkMsg + m.cmdsSize), nlmsgDone,
        0, hndl.seq % seqRange, 0⟩ ∧
      d.cnmsg = req ∧ req.hdr = ⟨cnW1Idx, cnW1Val, hndl.seq % seqRange, ackStatVal,
        .ofNat (sizeofW1NetlinkMsg + m.cmdsSize), 0⟩ ∧
      d.w1msg.type = m.wireType ∧ d.w1msg.status = 0 ∧ d.w1msg.len = m.cmdsSize ∧
      d.w1msg.id = m.wireId ∧
      d.w1cmds.map (fun k => (k.cmd, k.res, k.data)) =
        m.cmdList.map fun c => (convertCmdType cfg c.type, 0, c.wireData mem) := by
  obtain ⟨bs, h, w1cmds, hsent, hdec, hmap⟩ :=
    w1MsgExec_decodes hm.wellFormed hpos hsize fuel hndl mem msgBuf env
  have hlen : (m.wireMsg cfg mem (length_wireCmds_lt hsize)).toBytes.length =
      sizeofW1NetlinkMsg + m.cmdsSize := by
    rw [W1NetlinkMsg.length_toBytes, W1NetlinkMsg.len, W1Msg.wireMsg, W1Msg.length_wireCmds]
  refine ⟨bs, _, _, hsent, hdec, ?_, rfl, ?_, rfl, rfl, W1Msg.length_wireCmds .., rfl, hmap⟩
  · simp only [requestHdr, hlen, nlmsgLength]
    congr 2
    omega
  · simp only [requestMsg, CnMsg.hdr, hlen]

/-- A slave message with a read and a write with a pull-up. -/
theorem decodeRequest_w1MsgExec_readPullup :
    let cfg : Config := ⟨true, .ilp32⟩
    let hndl : W1Hndl := ⟨seqRange + 3⟩
    let mem : Mem UInt8 := fun x => .ofNat x
    let msgBuf : Mem UInt8 := fun _ => 0xff
    let env : IoEnv := ⟨msgBuf, msgBuf, true, [.pollTimeout]⟩
    let m := (addWritePullupW1Cmd cfg (addReadW1Cmd (w1SlaveMsgInit 40 2) 100 3).2 200 2 750).2
    ∃ bs req d, (w1MsgExec cfg 4113 hndl m mem msgBuf env).sent = some (bs, req) ∧
      decodeRequest bs = some d ∧
      d.nlmsg = ⟨.ofNat (nlmsgHdrlen + sizeofCnMsg + sizeofW1NetlinkMsg + m.cmdsSize), nlmsgDone,
        0, hndl.seq % seqRange, 0⟩ ∧
      d.cnmsg = req ∧ req.hdr = ⟨cnW1Idx, cnW1Val, hndl.seq % seqRange, ackStatVal,
        .ofNat (sizeofW1NetlinkMsg + m.cmdsSize), 0⟩ ∧
      d.w1msg.type = m.wireType ∧ d.w1msg.status = 0 ∧ d.w1msg.len = m.cmdsSize ∧
      d.w1msg.id = m.wireId ∧
      d.w1cmds.map (fun k => (k.cmd, k.res, k.data)) =
        m.cmdList.map fun c => (convertCmdType cfg c.type, 0, c.wireData mem) :=
  decodeRequest_w1MsgExec (.addWritePullup (.addRead (.slaveInit 40 2) 100 3) 200 2 750)
    (by decide) (by decide) 4113 _ _ _ _

end Sent

end Librasp
