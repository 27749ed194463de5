import Librasp.W1.ExecSuccess
import Librasp.Devices.Therm

/-!
# `ds_therm.c`: the scratchpad over the bus

A thermometer sends its scratchpad with a checksum (`ValidScratchpad`). `dsth_read_scratchpad`
returns what was sent, and refuses what was corrupted on the way, as far as an error pattern is
detectable (`dsthReadScratchpad_delivered`).

* The checksum is a field of `ValidScratchpad`, so that nothing else is ever sent, and the bits
  that are flipped are those of all the 72 bits, the checksum included (`corrupt`).
* `touchEnv` is a system in which a request is answered by the bytes that were on the bus; what
  the library makes of the reply is followed through `w1_msg_exec` to the bytes that `exec_cmd`
  returns (`execCmd_touchEnv`).
* `repliesEnv` answers a number of requests in turn, by their sequence numbers, for the functions
  that make more than one.

**Main result.** `dsthReadScratchpad_delivered`, for every scratchpad and every detectable error
pattern, by the polynomial of the checksum. `dsthReadScratchpad_flipped` has three bits flipped.
-/

namespace Librasp

open Crc

/-! ### Frames -/

/-- The bytes of a scratchpad, as they are sent. -/
def DsthScratchpad.toBytes (scpd : DsthScratchpad) : List UInt8 :=
  [scpd.tempLsb, scpd.tempHsb, scpd.th, scpd.tl, scpd.cfgReg, scpd.reserved, scpd.cntRem,
    scpd.cntPerC, scpd.crc]

@[simp]
theorem scratchpadOf_toBytes (scpd : DsthScratchpad) :
    ThermM.scratchpadOf scpd.toBytes = scpd := rfl

/-- A scratchpad with the checksum of its data. -/
structure ValidScratchpad extends DsthScratchpad where
  crc_eq : crc8 (toDsthScratchpad.toBytes.take 8) = crc

/-- Some bits of a string are flipped. -/
def corrupt (bs err : List UInt8) : List UInt8 := List.zipWith (· ^^^ ·) bs err

theorem bitsOf_corrupt {bs err : List UInt8} (hlen : bs.length = err.length) :
    bitsOf (corrupt bs err) = List.zipWith xor (bitsOf bs) (bitsOf err) := by
  induction bs generalizing err with
  | nil =>
    rw [List.eq_nil_of_length_eq_zero hlen.symm]
    rfl
  | cons b bs ih =>
    cases err with
    | nil => exact absurd hlen (Nat.succ_ne_zero _)
    | cons e err =>
      have hbytes : (byteBits b).length = (byteBits e).length := by simp
      have hrest : bitsOf (corrupt bs err) = List.zipWith xor (bitsOf bs) (bitsOf err) :=
        ih (Nat.succ_inj.mp hlen)
      simp only [bitsOf, corrupt, List.zipWith_cons_cons, List.flatMap_cons] at hrest ⊢
      rw [List.zipWith_append hbytes, ← byteBits_xor, ← hrest]

/-- The check of `dsth_read_scratchpad`, on the bits that were sent. -/
theorem crc8_eq_iff {bs : List UInt8} (hlen : bs.length = 9) :
    crc8 (bs.take 8) = (ThermM.scratchpadOf bs).crc ↔ dowPoly ∣ bitPoly (bitsOf bs) := by
  have hsplit : bs.take 8 ++ [(ThermM.scratchpadOf bs).crc] = bs := by
    have hlast : bs.drop 8 = [bs.getD 8 0] := by
      rw [List.drop_eq_getElem_cons (by omega), List.drop_eq_nil_of_le (by omega),
        List.getD_eq_getElem _ _ (by omega)]
    rw [ThermM.scratchpadOf, ← hlast, List.take_append_drop]
  rw [crc8_eq_iff_dvd, hsplit]

/-- The checksum of a scratchpad with a detectable error is wrong. -/
theorem ValidScratchpad.crc8_corrupt_ne (f : ValidScratchpad) {err : List UInt8}
    (hlen : err.length = 9) (hne : true ∈ bitsOf err) (herr : Detectable (bitsOf err)) :
    crc8 ((corrupt f.toBytes err).take 8) ≠
      (ThermM.scratchpadOf (corrupt f.toBytes err)).crc := by
  have hf : dowPoly ∣ bitPoly (bitsOf f.toBytes) := (crc8_eq_iff rfl).mp f.crc_eq
  have hsame : f.toBytes.length = err.length := hlen.symm
  have h9 : (corrupt f.toBytes err).length = 9 := by
    rw [corrupt, List.length_zipWith, ← hsame]
    rfl
  intro hcrc
  rw [crc8_eq_iff h9, bitsOf_corrupt hsame, bitPoly_zipWith_xor] at hcrc
  · refine not_dvd_of_detectable ?_ hne herr ((dvd_add_right hf).mp hcrc)
    rw [length_bitsOf, hlen]
  · rw [length_bitsOf, length_bitsOf, hsame]

/-! ### Reading -/

section Read

variable {cfg : Config} {env : ℕ → ThermEnv} {therm : UInt64} {s s' : ThermSt}

/-- A call of `exec_cmd` makes one call for the bus, and ends as it does. -/
theorem execCmd_cases (cfg : Config) (hbuf : (env s.calls.length).cmdBuf ≠ 0) (slv : UInt64)
    (cmd : List UInt8) (outLen : ℕ) (hcmd : cmd ≠ []) (hlen : cmd.length + outLen ≤ 32) :
    ∃ c hndl, busTrace c.sent = some ((cmd ++ List.replicate outLen 0xff).map .write) ∧
      ((c.ret = some .success ∧ ∃ out, ThermM.execCmd cfg env slv cmd outLen s =
          (.val out, ⟨hndl, s.calls ++ [c]⟩)) ∨
        (c.ret ≠ some .success ∧ ThermM.execCmd cfg env slv cmd outLen s =
          (ThermM.failed c.ret, ⟨hndl, s.calls ++ [c]⟩))) := by
  refine ⟨_, _, ?_, ThermM.busCall_cases fun _ _ _ => rfl⟩
  exact execCmd_trace hbuf slv hcmd hlen

/-- What `dsth_read_scratchpad` makes of the bytes it gets. -/
theorem dsthReadScratchpad_of_val {bs : List UInt8}
    (h : ThermM.execCmd cfg env therm [ThermM.readScratchpad] 9 s = (.val bs, s')) :
    ThermM.dsthReadScratchpad cfg env therm s =
      (if crc8 (bs.take 8) ≠ (ThermM.scratchpadOf bs).crc then .exit .dtaCrpt
        else .val (ThermM.scratchpadOf bs), s') := by
  rw [ThermM.dsthReadScratchpad, Prog.bind_of_val h]
  split_ifs <;> rfl

/-- **Corrupted scratchpads.** `dsth_read_scratchpad` returns a scratchpad that is delivered as it
was sent, and refuses one that is delivered with a detectable error. A call whose request
fails delivers nothing, and returns its error. -/
theorem dsthReadScratchpad_delivered (f : ValidScratchpad) {bs : List UInt8}
    (hdel : (ThermM.execCmd cfg env therm [ThermM.readScratchpad] 9 s).1 = .val bs) :
    (bs = f.toBytes →
      (ThermM.dsthReadScratchpad cfg env therm s).1 = .val f.toDsthScratchpad) ∧
    (∀ err : List UInt8, err.length = 9 → true ∈ bitsOf err → Detectable (bitsOf err) →
      bs = corrupt f.toBytes err →
      (ThermM.dsthReadScratchpad cfg env therm s).1 = .exit .dtaCrpt) := by
  have hread := dsthReadScratchpad_of_val (Prod.ext hdel rfl)
  rw [hread]
  constructor
  · rintro rfl
    exact if_neg (not_not.mpr f.crc_eq)
  · rintro err hlen hne herr rfl
    exact if_pos (f.crc8_corrupt_ne hlen hne herr)

end Read

/-! ### A thermometer that answers -/

section Answered

variable (cfg : Config) (slv : UInt64) {cmd out : List UInt8}

theorem touchData_lt {bs : List UInt8} (h : bs.length < 256) : bs.length < 65536 := by omega

theorem touchCmd_lt {bs : List UInt8} (h : bs.length < 256) :
    (W1NetlinkCmd.mk 4 0 bs (touchData_lt h)).toBytes.length < 65536 := by
  rw [W1NetlinkCmd.length_toBytes]
  exact show 4 + bs.length < 65536 by omega

/-- The reply to a touch command of a slave: the bytes that were on the bus. -/
def touchReply (bs : List UInt8) (h : bs.length < 256) : W1NetlinkMsg where
  type := w1SlaveCmd
  status := 0
  id := slv
  data := (W1NetlinkCmd.mk 4 0 bs (touchData_lt h)).toBytes
  data_lt := touchCmd_lt h

theorem length_touchReply {bs : List UInt8} (h : bs.length < 256) :
    (touchReply slv bs h).toBytes.length = 16 + bs.length := by
  simp [touchReply, W1NetlinkMsg.len, W1NetlinkCmd.len, sizeofW1NetlinkMsg, sizeofW1NetlinkCmd]
  omega

theorem length_touchReply_lt {bs : List UInt8} (h : bs.length < 256) :
    (touchReply slv bs h).toBytes.length < 65536 := by
  rw [length_touchReply]
  omega

/-- An environment in which the request with this sequence number is answered by these bytes on the
bus. -/
def touchEnv (seq : UInt32) (bs : List UInt8) (h : bs.length < 256) : ThermEnv where
  fuel := 4113
  cmdBuf := 16
  mem := fun _ => 0
  msgBuf := fun _ => 0
  io :=
    { sendBuf := fun _ => 0
      recvBuf := fun _ => 0
      sendOk := true
      events := recvEvents [singleReply seq 1 (touchReply slv bs h) (length_touchReply_lt slv h)] ++
        [.pollTimeout] }

/-- The message of `exec_cmd` has one touch command. -/
theorem execCmdMsg_eq {cmdBuf cmdLen outLen : ℕ} (hbuf : cmdBuf ≠ 0) (hpos : 0 < cmdLen)
    (hlen : cmdLen + outLen ≤ 32) :
    execCmdMsg cfg slv outLen cmdBuf cmdLen =
      { w1SlaveMsgInit slv 1 with
        cmds := (w1SlaveMsgInit slv 1).cmds.write 0 [⟨.touch, cmdLen + outLen, cmdBuf, 0⟩]
        nCmds := 1 } := by
  have hmod : (cmdLen + outLen) % 2 ^ cfg.word.bits = cmdLen + outLen := by
    have hbits := cfg.word.two_pow_bits_ge
    exact Nat.mod_eq_of_lt (by omega)
  rw [execCmdMsg, hmod, addTouchW1Cmd, addW1Cmd_eq _ _ (by simp) Nat.one_pos (by omega)]
  rfl

/-- A reply with as many bytes as the touch command has is copied into its buffer. -/
theorem w1msgExecCb_touchReply {m : W1Msg} {cmdBuf : ℕ} {bs : List UInt8} (h : bs.length < 256)
    (hn : m.nCmds = 1) (hcmd : m.cmds 0 = ⟨.touch, bs.length, cmdBuf, 0⟩) (hbuf : cmdBuf ≠ 0)
    (hpos : 0 < bs.length) :
    w1msgExecCb cfg (.init m) (touchReply slv bs h) false =
      (.moreOpt, ⟨0, m, 0, 1, [(touchReply slv bs h, false)], [0],
        [⟨0, ⟨4, 0, bs, touchData_lt h⟩⟩], [(cmdBuf, bs)]⟩) := by
  have hchain : W1NetlinkCmd.parser.chain (touchReply slv bs h).data =
      [⟨4, 0, bs, touchData_lt h⟩] := W1NetlinkCmd.chain_toBytes _
  rw [w1msgExecCb, hchain]
  simp [W1msgExecCbDta.init, hn, checkNextExecCmd, execFor, W1msgExecCbDta.cur, hcmd,
    convertCmdType, W1CmdType.isRespRequired, W1NetlinkCmd.len, hpos, hbuf, W1msgExecCbDta.take,
    W1msgExecCbDta.copy, respAfter]

/-- The message of `exec_cmd` is answered by the reply. -/
theorem answers_touchReply {m : W1Msg} {cmdBuf n : ℕ}
    (hmsg : m = { w1SlaveMsgInit slv 1 with
      cmds := (w1SlaveMsgInit slv 1).cmds.write 0 [⟨.touch, n, cmdBuf, 0⟩], nCmds := 1 })
    (hsize : sizeofW1NetlinkMsg + m.cmdsSize ≤ sizeofMsgBuf) (mem : Mem UInt8) {bs : List UInt8}
    (h : bs.length < 256) :
    Answers (m.wireMsg cfg mem (length_wireCmds_lt hsize)) (touchReply slv bs h) := by
  have htype : m.wireType = w1SlaveCmd := by
    rw [hmsg]
    rfl
  have hid : m.wireId = slv := by
    rw [hmsg]
    rfl
  exact ⟨htype.symm, fun hmaster => absurd (htype.symm.trans hmaster) (by decide),
    fun _ => hid.symm⟩

/-- The call of `w1_msg_exec` in an environment that answers. -/
theorem execCmdRun_touchEnv {hndl : W1Hndl} {seq : UInt32} (hseq : hndl.seq % seqRange = seq)
    (hpos : 0 < cmd.length) (hlen : cmd.length + out.length ≤ 32)
    (h : (cmd ++ out).length < 256) :
    (execCmdRun cfg (touchEnv slv seq (cmd ++ out) h) hndl slv cmd out.length).hndl =
        ⟨hndl.seq + 1⟩ ∧
      ∃ dta, (execCmdRun cfg (touchEnv slv seq (cmd ++ out) h) hndl slv cmd out.length).ret =
        some (.success, dta) ∧ dta.writes = [(16, cmd ++ out)] := by
  obtain ⟨e, he⟩ : ∃ e, e = touchEnv slv seq (cmd ++ out) h := ⟨_, rfl⟩
  obtain ⟨m, hm⟩ : ∃ m, m = execCmdMsg cfg slv out.length 16 cmd.length := ⟨_, rfl⟩
  have hmsg := execCmdMsg_eq cfg slv (show 16 ≠ 0 by decide) hpos hlen
  rw [← hm, ← List.length_append] at hmsg
  have hbuilt : Built cfg m := hm ▸ .addTouch (.slaveInit slv 1) _ _
  have hn : m.nCmds = 1 := by rw [hmsg]
  have hcmd : m.cmds 0 = ⟨.touch, (cmd ++ out).length, 16, 0⟩ := by
    rw [hmsg]
    rfl
  have hsize : sizeofW1NetlinkMsg + m.cmdsSize ≤ sizeofMsgBuf := by
    have hcmds : m.cmdList = [⟨.touch, (cmd ++ out).length, 16, 0⟩] := by
      rw [W1Msg.cmdList, hn, ← hcmd]
      rfl
    rw [W1Msg.cmdsSize, hcmds]
    exact show 12 + (4 + (cmd ++ out).length + 0 + 0) ≤ 4076 by omega
  have hrun : execCmdRun cfg e hndl slv cmd out.length = w1MsgExec cfg 4113 hndl m
      (e.mem.writeAll (execCmdFills cmd out.length 16)) (fun _ => 0) e.io := by
    rw [execCmdRun, he, hm]
    rfl
  have hevents : e.io.events = recvEvents [singleReply (hndl.seq % seqRange) 1
      (touchReply slv (cmd ++ out) h) (length_touchReply_lt slv h)] ++ [.pollTimeout] := by
    rw [he, hseq]
    rfl
  rw [← he, hrun]
  constructor
  · obtain ⟨hlt, hsent⟩ := w1MsgExec_sent hbuilt.wellFormed (by omega) hsize 4113 hndl
      (e.mem.writeAll (execCmdFills cmd out.length 16)) (fun _ => 0) e.io
    exact w1MsgExec_hndl hsent
  · have hle : (touchReply slv (cmd ++ out) h).toBytes.length ≤ 4076 := by
      rw [length_touchReply]
      omega
    have hstatus : decide ((1 : UInt32) = ackStatVal) = false := rfl
    rw [w1MsgExec_singleReply hbuilt.wellFormed (by omega) hsize
      (show maxW1NetlinkMsgSz < 4113 by decide) hndl _ _ _ hle
      (answers_touchReply cfg slv hmsg hsize _ h) (by rw [he]; rfl) hevents, hstatus,
      w1msgExecCb_touchReply cfg slv h hn hcmd (by decide) (by rw [List.length_append]; omega)]
    exact ⟨_, rfl, rfl⟩

/-- The bytes of the reply are what `exec_cmd` returns: the reply is taken for its request, and
its data is copied into `cmd_buf`, from where it is returned. -/
theorem execCmd_touchEnv {hndl : W1Hndl} {seq : UInt32} (hseq : hndl.seq % seqRange = seq)
    (hpos : 0 < cmd.length) (hlen : cmd.length + out.length ≤ 32)
    (h : (cmd ++ out).length < 256) :
    (execCmd cfg (touchEnv slv seq (cmd ++ out) h) hndl slv cmd out.length).hndl =
        ⟨hndl.seq + 1⟩ ∧
      (execCmd cfg (touchEnv slv seq (cmd ++ out) h) hndl slv cmd out.length).ret =
        some (.success, out) := by
  obtain ⟨hhndl, dta, hret, hwrites⟩ := execCmdRun_touchEnv cfg slv hseq hpos hlen h
  rw [execCmd_eq, hret, hhndl, Option.map_some, hwrites]
  refine ⟨rfl, congrArg some (Prod.ext rfl ?_)⟩
  dsimp only
  rcases Nat.eq_zero_or_pos out.length with hzero | hout
  · rw [if_neg (by omega)]
    exact (List.eq_nil_of_length_eq_zero hzero).symm
  · rw [if_pos ⟨rfl, hout⟩]
    -- the part of the buffer behind the command
    have hread := Mem.read_write_self
      ((touchEnv slv seq (cmd ++ out) h).mem.writeAll (execCmdFills cmd out.length 16)) 16
      (cmd ++ out)
    have hdrop := congrArg (List.drop cmd.length) hread
    rw [Mem.drop_read, List.length_append, Nat.add_sub_cancel_left, List.drop_left] at hdrop
    exact hdrop

/-! ### Operations that are answered -/

/-- An environment in which the k-th request has the k-th reply. -/
def repliesEnv (replies : ℕ → List UInt8) (h : ∀ k, (replies k).length < 256) : ℕ → ThermEnv :=
  fun k => touchEnv slv (.ofNat k % seqRange) (replies k) (h k)

/-- The requests of an operation have consecutive sequence numbers. -/
def Numbered (s : ThermSt) : Prop := s.hndl.seq = .ofNat s.calls.length

theorem execCmd_repliesEnv (cmd out : List UInt8) {replies : ℕ → List UInt8}
    {h : ∀ k, (replies k).length < 256} {s : ThermSt} (hs : Numbered s) (hcmd : cmd ≠ [])
    (hlen : cmd.length + out.length ≤ 32) (hreply : replies s.calls.length = cmd ++ out) :
    ∃ c s', ThermM.execCmd cfg (repliesEnv slv replies h) slv cmd out.length s = (.val out, s') ∧
      s'.calls = s.calls ++ [c] ∧ c.ret = some .success ∧
      busTrace c.sent = some ((cmd ++ List.replicate out.length 0xff).map .write) ∧
      Numbered s' := by
  obtain ⟨hhndl, hret⟩ := execCmd_touchEnv cfg slv (congrArg (· % seqRange) hs)
    (List.length_pos_of_ne_nil hcmd) hlen (hreply ▸ h _)
  have henv : repliesEnv slv replies h s.calls.length =
      touchEnv slv (.ofNat s.calls.length % seqRange) (cmd ++ out) (hreply ▸ h _) := by
    simp only [repliesEnv, hreply]
  rw [← henv] at hhndl hret
  refine ⟨_, _, Prod.ext (ThermM.busCall_val_iff.mpr hret) ThermM.busCall_snd, rfl, ?_, ?_, ?_⟩
  · dsimp only
    rw [hret]
    rfl
  · exact execCmd_trace (show 16 ≠ 0 by decide) slv hcmd hlen
  · rw [Numbered, hhndl, hs, List.length_append, List.length_singleton]
    exact (UInt32.ofNat_add _ _).symm

end Answered

/-- A scratchpad with a reading of 85 degrees. -/
def powerOnScratchpad : ValidScratchpad where
  tempLsb := 0x50
  tempHsb := 0x05
  th := 0x4b
  tl := 0x46
  cfgReg := 0x7f
  reserved := 0xff
  cntRem := 0x0c
  cntPerC := 0x10
  crc := 0x1c
  crc_eq := by decide

/-- It is sent with three bits flipped. -/
def flippedReplies : ℕ → List UInt8 := fun _ => [ThermM.readScratchpad] ++
  corrupt powerOnScratchpad.toBytes [0, 1, 0, 0, 0x80, 0, 0, 0, 8]

theorem length_flippedReplies (k : ℕ) : (flippedReplies k).length < 256 :=
  show 10 < 256 by decide

/-- Three flipped bits are noticed. -/
theorem dsthReadScratchpad_flipped :
    (ThermM.dsthReadScratchpad ⟨false, .lp64⟩
      (repliesEnv 0x28 flippedReplies length_flippedReplies) 0x28 ⟨w1Init, []⟩).1 =
        .exit .dtaCrpt := by
  obtain ⟨c, s', hexec, -⟩ := execCmd_repliesEnv ⟨false, .lp64⟩ 0x28 _ _
    (h := length_flippedReplies) (s := ⟨w1Init, []⟩) rfl
    (List.cons_ne_nil _ _) (by decide) rfl
  exact (dsthReadScratchpad_delivered powerOnScratchpad (congrArg Prod.fst hexec)).2 _ rfl
    (by decide) (Or.inl (by decide)) rfl

end Librasp
