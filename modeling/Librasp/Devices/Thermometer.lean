import Librasp.Devices.Resolution

/-!
# A thermometer that is asked

The requests of `ds_therm.c` in a closed loop: a request goes to the kernel as a datagram, the
kernel does on the bus what the datagram says, a thermometer obeys, and what it sends goes back to
the library in the reply. A request or its reply may be lost, and some bits of what the
thermometer sends may be flipped.

* `Thermometer` is the device: its scratchpad and its EEPROM, its family and supply, and a
  conversion or a copy in progress, which comes to its end in time (`settle`). `obey` is what a
  command makes of it, and `answer` what it sends.
* `Fate` is what becomes of a request: it does not reach the bus, its reply is lost, or it is
  answered with some bits flipped.
* The line is down where the master or the thermometer pulls it down, so that a thermometer can
  only clear bits of what the master reads (`line`).
* `SiteM` are the programs of requests, and its `execCmd` and `execCmdPullup` are those of the
  library, run in the system that the bus makes of the request.

**Main results.** `SiteM.execCmd_eq` and `SiteM.execCmdPullup_eq` say what comes of one request,
for the caller and for the thermometer. Whoever uses them needs to know nothing of datagrams.
-/

namespace Librasp

/-! ### The device -/

/-- The registers that a conversion sets. -/
structure Reading where
  lsb : UInt8
  hsb : UInt8
  cntRem : UInt8
  deriving DecidableEq, Repr

/-- The registers that are kept in the EEPROM. -/
structure Settings where
  th : UInt8
  tl : UInt8
  cfgReg : UInt8
  deriving DecidableEq, Repr

namespace ValidScratchpad

/-- The scratchpad after a conversion. -/
def measure (f : ValidScratchpad) (r : Reading) : ValidScratchpad where
  tempLsb := r.lsb
  tempHsb := r.hsb
  th := f.th
  tl := f.tl
  cfgReg := f.cfgReg
  reserved := f.reserved
  cntRem := r.cntRem
  cntPerC := f.cntPerC
  crc := crc8 [r.lsb, r.hsb, f.th, f.tl, f.cfgReg, f.reserved, r.cntRem, f.cntPerC]
  crc_eq := rfl

/-- The registers of the scratchpad that have a place in the EEPROM. -/
def settings (f : ValidScratchpad) : Settings := ⟨f.th, f.tl, f.cfgReg⟩

end ValidScratchpad

/-- A thermometer. -/
structure Thermometer where
  scpd : ValidScratchpad
  eeprom : Settings
  /-- It has no power supply of its own. -/
  parasitic : Bool
  /-- The conversion in progress: when it ends, and what it has measured. -/
  conv : Option (ℕ × Reading)

/-- What becomes of a request. -/
inductive Fate
  /-- It is answered, with some bits flipped of what the thermometer sends. -/
  | answered (err : ℕ → UInt8)
  /-- No reply arrives; the request may have reached the bus. -/
  | lost (reached : Bool)
  /-- `send()` fails. -/
  | notSent

/-- Where a thermometer is, and what becomes of the requests to it. Times are in microseconds. -/
structure Site where
  therm : UInt64
  /-- What a conversion measures that begins at a time. -/
  sense : ℕ → Reading
  /-- How long a conversion takes. -/
  convTime : DsthRes → ℕ
  /-- What a conversion leaves that has not had power to its end. -/
  brownOut : Reading
  /-- What is in the EEPROM after a copy that has not had power to its end. -/
  weakCopy : Settings
  /-- What becomes of each request, and the time that passes before it. -/
  fate : ℕ → Fate
  delay : ℕ → ℕ
  /-- How long a call of `usleep` takes after a number of requests, by its argument. -/
  nap : ℕ → ℕ → ℕ

namespace Thermometer

variable (w : Site) (now : ℕ) (pullup : Option ℕ) (d : Thermometer)

/-- The resolution of a thermometer: DS18S20 has just one. -/
def res : DsthRes :=
  if dsthGetFamily w.therm ≠ ds18s20 then .ofUInt8 (cfgRes d.scpd.cfgReg) else .bit12

/-- A thermometer at a time: a conversion may have come to its end. -/
def settle : Thermometer :=
  match d.conv with
  | none => d
  | some (t, r) => if t ≤ now then { d with scpd := d.scpd.measure r, conv := none } else d

/-- A conversion. Without a supply it needs a strong pull-up to its end. -/
def convert : Thermometer :=
  if d.parasitic then
    { d with
      scpd := d.scpd.measure
        (if w.convTime (d.res w) ≤ 1000 * pullup.getD 0 then w.sense now else w.brownOut)
      conv := none }
  else { d with conv := some (now + w.convTime (d.res w), w.sense now) }

/-- The registers are written; those of DS18S20 are two. -/
def writeRegs : List UInt8 → Thermometer
  | [th, tl] => { d with scpd := d.scpd.write th tl d.scpd.cfgReg }
  | [th, tl, cfgReg] => { d with scpd := d.scpd.write th tl cfgReg }
  | _ => d

/-- The registers are copied to the EEPROM, which takes 10 milliseconds and needs power. -/
def copyRegs : Thermometer :=
  { d with
    eeprom := if d.parasitic = true ∧ pullup.getD 0 < 10 then w.weakCopy else d.scpd.settings }

/-- The registers are recalled from the EEPROM. -/
def recallRegs : Thermometer :=
  { d with scpd := d.scpd.write d.eeprom.th d.eeprom.tl d.eeprom.cfgReg }

/-- What becomes of a thermometer by a command, and the strong pull-up behind it. -/
def obey : List UInt8 → Thermometer
  | [] => d
  | c :: args =>
    if c = convertT then d.convert w now pullup
    else if c = writeScratchpad then d.writeRegs args
    else if c = copyScratchpad then d.copyRegs w pullup
    else if c = recallEeprom then d.recallRegs
    else d

/-- What a thermometer sends after the first byte of a command. -/
def answer (c : UInt8) : List UInt8 :=
  if c = ThermM.readScratchpad then d.scpd.toBytes
  else if c = ThermM.readPowSupply then [if d.parasitic then 0 else 0xff]
  else []

/-- What arrives of it. -/
def heard (err : ℕ → UInt8) (c : UInt8) : List UInt8 :=
  (d.answer c).mapIdx fun i b => b ^^^ err i

/-- The bytes on the bus, where the line is down if the master or the thermometer pulls it down. -/
def line (err : ℕ → UInt8) : List UInt8 → List UInt8
  | [] => []
  | c :: bs => c :: bs.mapIdx fun i b => b &&& (d.heard err c).getD i 0xff

end Thermometer

/-! ### Requests -/

/-- The bytes that are written to the bus. -/
def busBytes (acts : List BusAct) : List UInt8 :=
  acts.filterMap fun
    | .write b => some b
    | _ => none

/-- The strong pull-up on the bus, in milliseconds. -/
def busPullup (acts : List BusAct) : Option ℕ :=
  acts.findSome? fun
    | .pullup ms => some ms
    | _ => none

/-- A system in which no reply arrives. -/
def muteEnv (sendOk : Bool) : ThermEnv where
  fuel := 4113
  cmdBuf := 16
  mem := fun _ => 0
  msgBuf := fun _ => 0
  io :=
    { sendBuf := fun _ => 0
      recvBuf := fun _ => 0
      sendOk := sendOk
      events := [.pollTimeout] }

theorem noData_lt : ([] : List UInt8).length < 65536 := by decide

/-- The reply to a write with a strong pull-up: a status. -/
def pullupReply (slv : UInt64) : W1NetlinkMsg where
  type := w1SlaveCmd
  status := 0
  id := slv
  data := (W1NetlinkCmd.mk 20 0 [] noData_lt).toBytes
  data_lt := by decide

theorem length_pullupReply (slv : UInt64) : (pullupReply slv).toBytes.length = 16 := by
  simp [pullupReply, W1NetlinkMsg.len, W1NetlinkCmd.len, sizeofW1NetlinkMsg, sizeofW1NetlinkCmd]

theorem length_pullupReply_lt (slv : UInt64) : (pullupReply slv).toBytes.length < 65536 := by
  rw [length_pullupReply]
  decide

/-- A system in which the request with this sequence number is answered by a status. -/
def statusEnv (slv : UInt64) (seq : UInt32) : ThermEnv :=
  { muteEnv true with
    io := { (muteEnv true).io with
      events := recvEvents [singleReply seq ackStatVal (pullupReply slv)
        (length_pullupReply_lt slv)] ++ [.pollTimeout] } }

/-- A system in which the request with this sequence number is answered by the bytes on the bus. -/
def lineEnv (slv : UInt64) (seq : UInt32) (line : List UInt8) : ThermEnv :=
  if h : line.length < 256 then touchEnv slv seq line h else muteEnv true

namespace Fate

/-- The system that a request meets. -/
def env (reply : (ℕ → UInt8) → ThermEnv) : Fate → ThermEnv
  | answered err => reply err
  | lost _ => muteEnv true
  | notSent => muteEnv false

/-- Whether a request reaches the bus. -/
def reached : Fate → Bool
  | answered _ => true
  | lost reached => reached
  | notSent => false

end Fate

/-- A thermometer with the handle that it is asked through, at a time. -/
structure SiteSt where
  hndl : W1Hndl
  dev : Thermometer
  now : ℕ
  /-- The number of requests that were made. -/
  reqs : ℕ

/-- Programs of requests to a thermometer. -/
abbrev SiteM (α : Type) := Prog LrErrc SiteSt α

namespace SiteM

variable (cfg : Config) (w : Site)

/-- The time of the next request. -/
def nextTime (s : SiteSt) : ℕ := s.now + w.delay s.reqs

/-- The thermometer at the next request. -/
def nextDev (s : SiteSt) : Thermometer := s.dev.settle (nextTime w s)

/-- A request: `call` is what the library does in a system, `reply` the system that answers. -/
def request (call : ThermEnv → W1Hndl → SendRecv (List UInt8))
    (reply : UInt32 → List UInt8 → ThermEnv) : SiteM (List UInt8) := fun s =>
  let fate := w.fate s.reqs
  let dev := nextDev w s
  -- what is sent does not depend on the reply
  let sent := (call (muteEnv true) s.hndl).sent
  let acts := (busTrace sent).getD []
  let seq := (sent.map fun x => x.2.seq).getD 0
  let r := call (fate.env fun err => reply seq (dev.line err (busBytes acts))) s.hndl
  (match r.ret with
    | none => .more
    | some (ret, out) => if ret = .success then .val out else .exit ret,
    { hndl := r.hndl
      dev := if fate.reached then
          dev.obey w (nextTime w s) (busPullup acts) (busBytes acts)
        else dev
      now := nextTime w s + if fate.reached then 1000 * (busPullup acts).getD 0 else 0
      reqs := s.reqs + 1 })

/-- `exec_cmd`. -/
def execCmd (cmd : List UInt8) (outLen : ℕ) : SiteM (List UInt8) :=
  request w (fun e hndl => Librasp.execCmd cfg e hndl w.therm cmd outLen) (lineEnv w.therm)

/-- `exec_cmd_pullup`. -/
def execCmdPullup (cmd : UInt8) (pullup : UInt32) : SiteM (List UInt8) :=
  request w (fun e hndl => Librasp.execCmdPullup cfg e hndl w.therm cmd pullup)
    fun seq _ => statusEnv w.therm seq

/-- `usleep`. -/
def usleep (usec : UInt32) : SiteM Unit :=
  Prog.modify fun s => { s with now := s.now + w.nap s.reqs usec.toNat }

end SiteM

/-! ### Silence -/

section Silence

variable {cfg : Config} {m : W1Msg}

/-- A message to which no reply arrives. -/
theorem w1MsgExec_silent (hm : m.WellFormed cfg) (hpos : 0 < m.nCmds)
    (hsize : sizeofW1NetlinkMsg + m.cmdsSize ≤ sizeofMsgBuf) (hndl : W1Hndl)
    (mem : Mem UInt8) (sendOk : Bool) :
    (w1MsgExec cfg 4113 hndl m mem (fun _ => 0) (muteEnv sendOk).io).ret =
      some (if sendOk then .noResp else .commErr, .init m) := by
  obtain ⟨h, hsent⟩ := w1MsgExec_sent hm hpos hsize 4113 hndl mem (fun _ => 0)
    (muteEnv sendOk).io
  cases sendOk with
  | true =>
    have hevents : (muteEnv true).io.events = recvEvents [] ++ .pollTimeout :: [] := rfl
    rw [w1MsgExec_ret_datagrams hm hpos hsize (by decide) rfl hevents hsent (by simp)
      (by decide)]
    rfl
  | false =>
    have hlen : msgLen cfg m = sizeofW1NetlinkMsg + m.cmdsSize := msgLen_eq_of_le hm hsize
    rw [w1MsgExec, if_neg (by omega), if_neg (by omega), sendRecvW1msg] at hsent ⊢
    obtain ⟨-, herr⟩ | ⟨-, hlt, hok⟩ := sendW1msg_cases hndl (fillMsgBuf cfg mem m fun _ => 0)
      (muteEnv false).io.sendBuf rfl
    · rw [herr] at hsent
      cases hsent
    · rw [hok]
      rfl

/-- A message that is answered by one status. -/
theorem w1MsgExec_status (hm : m.WellFormed cfg) (hn : m.nCmds = 1)
    (hsize : sizeofW1NetlinkMsg + m.cmdsSize ≤ sizeofMsgBuf) (hndl : W1Hndl)
    (mem : Mem UInt8) {slv : UInt64} (htype : m.wireType = w1SlaveCmd) (hid : m.wireId = slv)
    (hcmd : (m.cmds 0).type = .writePullup) (hcfg : cfg.writePullup = true) :
    ∃ dta, (w1MsgExec cfg 4113 hndl m mem (fun _ => 0)
      (statusEnv slv (hndl.seq % seqRange)).io).ret = some (.success, dta) := by
  have hans : Answers (m.wireMsg cfg mem (length_wireCmds_lt hsize)) (pullupReply slv) :=
    ⟨htype.symm, fun hmaster => absurd (htype.symm.trans hmaster) (by decide), fun _ => hid.symm⟩
  have hchain : W1NetlinkCmd.parser.chain (pullupReply slv).data = [⟨20, 0, [], by decide⟩] :=
    W1NetlinkCmd.chain_toBytes _
  have hcb : w1msgExecCb cfg (.init m) (pullupReply slv) true =
      (.moreOpt, ⟨0, m, 0, 1, [(pullupReply slv, true)], [0], [⟨0, ⟨20, 0, [], by decide⟩⟩],
        []⟩) := by
    rw [w1msgExecCb, hchain]
    simp [W1msgExecCbDta.init, hn, checkNextExecCmd, execFor, W1msgExecCbDta.cur, hcmd,
      convertCmdType, W1CmdType.isRespRequired, hcfg, W1msgExecCbDta.take, respAfter, pullupReply]
  rw [w1MsgExec_singleReply hm (by omega) hsize (by decide) hndl mem (fun _ => 0)
    (length_pullupReply_lt slv) (by rw [length_pullupReply]; decide) hans rfl rfl,
    show decide (ackStatVal = ackStatVal) = true from rfl, hcb]
  exact ⟨_, rfl⟩

end Silence

section Calls

variable (cfg : Config) (slv : UInt64)

/-- The message of `exec_cmd`. -/
theorem execCmdMsg_fits {cmdBuf cmdLen outLen : ℕ} (hbuf : cmdBuf ≠ 0) (hpos : 0 < cmdLen)
    (hlen : cmdLen + outLen ≤ 32) :
    (execCmdMsg cfg slv outLen cmdBuf cmdLen).WellFormed cfg ∧
      (execCmdMsg cfg slv outLen cmdBuf cmdLen).nCmds = 1 ∧
      sizeofW1NetlinkMsg + (execCmdMsg cfg slv outLen cmdBuf cmdLen).cmdsSize ≤ sizeofMsgBuf := by
  obtain ⟨m, hm⟩ : ∃ m, m = execCmdMsg cfg slv outLen cmdBuf cmdLen := ⟨_, rfl⟩
  have hbuilt : Built cfg m := hm ▸ .addTouch (.slaveInit slv 1) _ _
  have hmsg := execCmdMsg_eq cfg slv hbuf hpos hlen
  rw [← hm] at hmsg ⊢
  have hn : m.nCmds = 1 := by rw [hmsg]
  have hcmds : m.cmdList = [⟨.touch, cmdLen + outLen, cmdBuf, 0⟩] := by
    rw [W1Msg.cmdList, hn, hmsg]
    rfl
  refine ⟨hbuilt.wellFormed, hn, ?_⟩
  rw [W1Msg.cmdsSize, hcmds]
  exact show 12 + (4 + (cmdLen + outLen) + 0 + 0) ≤ 4076 by omega

/-- The message of `exec_cmd_pullup`. -/
def execCmdPullupMsg (cmdBuf : ℕ) (pullup : UInt32) : W1Msg :=
  (addWritePullupW1Cmd cfg (w1SlaveMsgInit slv 1) cmdBuf 1 pullup).2

theorem execCmdPullupMsg_fits (hcfg : cfg.writePullup = true) {cmdBuf : ℕ} (hbuf : cmdBuf ≠ 0)
    (pullup : UInt32) :
    (execCmdPullupMsg cfg slv cmdBuf pullup).WellFormed cfg ∧
      (execCmdPullupMsg cfg slv cmdBuf pullup).nCmds = 1 ∧
      (execCmdPullupMsg cfg slv cmdBuf pullup).cmds 0 = ⟨.writePullup, 1, cmdBuf, pullup⟩ ∧
      sizeofW1NetlinkMsg + (execCmdPullupMsg cfg slv cmdBuf pullup).cmdsSize ≤ sizeofMsgBuf := by
  obtain ⟨m, hm⟩ : ∃ m, m = execCmdPullupMsg cfg slv cmdBuf pullup := ⟨_, rfl⟩
  have hbuilt : Built cfg m := hm ▸ .addWritePullup (.slaveInit slv 1) _ _ _
  have hcmds : m.cmdList = [⟨.writePullup, 1, cmdBuf, pullup⟩] := by
    rw [hm, execCmdPullupMsg, addWritePullupW1Cmd, if_pos hcfg,
      addW1Cmd_eq _ _ (by simp) Nat.one_pos (by omega), cmdList_append]
    rfl
  have hn : m.nCmds = 1 := by
    rw [← m.length_cmdList, hcmds, List.length_singleton]
  rw [← hm]
  refine ⟨hbuilt.wellFormed, hn, ?_, ?_⟩
  · have hzero := m.getElem_cmdList (i := 0) (by rw [hcmds]; exact Nat.one_pos)
    simpa only [hcmds, List.getElem_cons_zero] using hzero.symm
  · rw [W1Msg.cmdsSize, hcmds]
    exact show 12 + 7 ≤ 4076 by omega

/-- A request without a reply: it takes a sequence number all the same. -/
structure IsSilent (hndl : W1Hndl) (sendOk : Bool) (r : SendRecv (List UInt8)) : Prop where
  hndl_eq : r.hndl = ⟨hndl.seq + 1⟩
  ret_eq : r.ret = some (if sendOk then .noResp else .commErr, [])
  sent_seq : (r.sent.map fun x => x.2.seq) = some (hndl.seq % seqRange)

variable {cfg} {cmd : List UInt8} {outLen : ℕ}

theorem execCmd_silent (hcmd : cmd ≠ []) (hlen : cmd.length + outLen ≤ 32) (hndl : W1Hndl)
    (sendOk : Bool) :
    IsSilent hndl sendOk (execCmd cfg (muteEnv sendOk) hndl slv cmd outLen) := by
  obtain ⟨hm, hn, hsize⟩ := execCmdMsg_fits cfg slv (show 16 ≠ 0 by decide)
    (List.length_pos_of_ne_nil hcmd) hlen
  have hret := w1MsgExec_silent hm (by omega) hsize hndl
    ((muteEnv sendOk).mem.writeAll (execCmdFills cmd outLen 16)) sendOk
  obtain ⟨h, hsent⟩ := w1MsgExec_sent hm (by omega) hsize 4113 hndl
    ((muteEnv sendOk).mem.writeAll (execCmdFills cmd outLen 16)) (fun _ => 0)
    (muteEnv sendOk).io
  have hrun : execCmdRun cfg (muteEnv sendOk) hndl slv cmd outLen = w1MsgExec cfg 4113 hndl
      (execCmdMsg cfg slv outLen 16 cmd.length)
      ((muteEnv sendOk).mem.writeAll (execCmdFills cmd outLen 16)) (fun _ => 0)
      (muteEnv sendOk).io := rfl
  rw [← hrun] at hret hsent
  rw [execCmd_eq]
  refine ⟨w1MsgExec_hndl hsent, ?_, ?_⟩
  · rw [hret, Option.map_some]
    cases sendOk <;> rfl
  · rw [hsent]
    rfl

theorem execCmdPullup_silent (hcfg : cfg.writePullup = true) (cmd : UInt8) (pullup : UInt32)
    (hndl : W1Hndl) (sendOk : Bool) :
    IsSilent hndl sendOk (execCmdPullup cfg (muteEnv sendOk) hndl slv cmd pullup) := by
  obtain ⟨hm, hn, -, hsize⟩ := execCmdPullupMsg_fits cfg slv hcfg (show 16 ≠ 0 by decide) pullup
  have hret := w1MsgExec_silent hm (by omega) hsize hndl ((muteEnv sendOk).mem.write 16 [cmd])
    sendOk
  obtain ⟨h, hsent⟩ := w1MsgExec_sent hm (by omega) hsize 4113 hndl
    ((muteEnv sendOk).mem.write 16 [cmd]) (fun _ => 0) (muteEnv sendOk).io
  refine ⟨w1MsgExec_hndl hsent, ?_, ?_⟩
  · exact congrArg (Option.map fun r => (r.1, ([] : List UInt8))) hret
  · exact congrArg (Option.map fun x => x.2.seq) hsent

/-- A write with a strong pull-up that is answered. -/
theorem execCmdPullup_status (hcfg : cfg.writePullup = true) (cmd : UInt8) (pullup : UInt32)
    (hndl : W1Hndl) :
    (execCmdPullup cfg (statusEnv slv (hndl.seq % seqRange)) hndl slv cmd pullup).hndl =
        ⟨hndl.seq + 1⟩ ∧
      (execCmdPullup cfg (statusEnv slv (hndl.seq % seqRange)) hndl slv cmd pullup).ret =
        some (.success, []) := by
  obtain ⟨hm, hn, hcmd, hsize⟩ :=
    execCmdPullupMsg_fits cfg slv hcfg (show 16 ≠ 0 by decide) pullup
  have hmsg : (execCmdPullupMsg cfg slv 16 pullup).type = .slave ∧
      (execCmdPullupMsg cfg slv 16 pullup).slv = slv := by
    rw [execCmdPullupMsg, addWritePullupW1Cmd, if_pos hcfg,
      addW1Cmd_eq _ _ (by simp) Nat.one_pos (by omega)]
    exact ⟨rfl, rfl⟩
  have hid : (execCmdPullupMsg cfg slv 16 pullup).wireId = slv := by
    rw [W1Msg.wireId, hmsg.1]
    exact hmsg.2
  obtain ⟨dta, hret⟩ := w1MsgExec_status hm hn hsize hndl ((muteEnv true).mem.write 16 [cmd])
    (by rw [W1Msg.wireType, hmsg.1]) hid (by rw [hcmd]) hcfg
  obtain ⟨h, hsent⟩ := w1MsgExec_sent hm (by omega) hsize 4113 hndl
    ((muteEnv true).mem.write 16 [cmd]) (fun _ => 0) (statusEnv slv (hndl.seq % seqRange)).io
  have hout := congrArg (Option.map fun r => (r.1, ([] : List UInt8))) hret
  exact ⟨w1MsgExec_hndl hsent, hout⟩

end Calls

/-! ### What comes of a request -/

/-- How a request ends, if `out` is what it returns when it is answered. -/
def Fate.result {α : Type} (out : (ℕ → UInt8) → α) : Fate → Outcome LrErrc α
  | answered err => .val (out err)
  | lost _ => .exit .noResp
  | notSent => .exit .commErr

section Bytes

theorem busBytes_map_write (bs : List UInt8) : busBytes (bs.map .write) = bs := by
  rw [busBytes, List.filterMap_map]
  exact List.filterMap_some

theorem busPullup_map_write (bs : List UInt8) : busPullup (bs.map .write) = none := by
  rw [busPullup, List.findSome?_eq_none_iff]
  intro a ha
  obtain ⟨b, -, rfl⟩ := List.mem_map.mp ha
  rfl

end Bytes

namespace SiteM

variable {cfg : Config} {w : Site} {s : SiteSt}

/-- A request that sends these bytes, with this strong pull-up behind them. -/
theorem request_eq (call : ThermEnv → W1Hndl → SendRecv (List UInt8))
    (reply : UInt32 → List UInt8 → ThermEnv) {acts : List BusAct}
    {out : (ℕ → UInt8) → List UInt8}
    (htrace : busTrace (call (muteEnv true) s.hndl).sent = some acts)
    (hsilent : ∀ sendOk, IsSilent s.hndl sendOk (call (muteEnv sendOk) s.hndl))
    (hreply : ∀ err,
      let r := call (reply (s.hndl.seq % seqRange) ((nextDev w s).line err (busBytes acts))) s.hndl
      r.hndl = ⟨s.hndl.seq + 1⟩ ∧ r.ret = some (.success, out err)) :
    request w call reply s = ((w.fate s.reqs).result out,
      { hndl := ⟨s.hndl.seq + 1⟩
        dev := if (w.fate s.reqs).reached then
            (nextDev w s).obey w (nextTime w s) (busPullup acts) (busBytes acts)
          else nextDev w s
        now := nextTime w s +
          if (w.fate s.reqs).reached then 1000 * (busPullup acts).getD 0 else 0
        reqs := s.reqs + 1 }) := by
  rw [request, htrace, (hsilent true).sent_seq, Option.getD_some, Option.getD_some]
  rcases w.fate s.reqs with err | reached | _
  · rw [Fate.env, (hreply err).1, (hreply err).2]
    rfl
  · rw [Fate.env, (hsilent true).hndl_eq, (hsilent true).ret_eq]
    rfl
  · rw [Fate.env, (hsilent false).hndl_eq, (hsilent false).ret_eq]
    rfl

/-- **A command.** What comes of `exec_cmd`, if a thermometer that gets the command makes of the
ones behind it what is returned. The request is read by the decoder of the kernel, and its
reply by the library. -/
theorem execCmd_eq {cmd : List UInt8} {outLen : ℕ} (hcmd : cmd ≠ [])
    (hlen : cmd.length + outLen ≤ 32) {out : (ℕ → UInt8) → List UInt8}
    (hline : ∀ err,
      (nextDev w s).line err (cmd ++ List.replicate outLen 0xff) = cmd ++ out err) :
    execCmd cfg w cmd outLen s = ((w.fate s.reqs).result out,
      { hndl := ⟨s.hndl.seq + 1⟩
        dev := if (w.fate s.reqs).reached then
            (nextDev w s).obey w (nextTime w s) none (cmd ++ List.replicate outLen 0xff)
          else nextDev w s
        now := nextTime w s
        reqs := s.reqs + 1 }) := by
  have hlength : ∀ err, (out err).length = outLen := by
    intro err
    have h := congrArg List.length (hline err)
    obtain ⟨c, bs, rfl⟩ := List.exists_cons_of_ne_nil hcmd
    simp only [List.cons_append, Thermometer.line, List.length_cons, List.length_mapIdx,
      List.length_append, List.length_replicate] at h
    omega
  have htrace : busTrace (Librasp.execCmd cfg (muteEnv true) s.hndl w.therm cmd outLen).sent =
      some ((cmd ++ List.replicate outLen 0xff).map .write) :=
    execCmd_trace (show 16 ≠ 0 by decide) w.therm hcmd hlen
  have hreply : ∀ err, (Librasp.execCmd cfg (lineEnv w.therm (s.hndl.seq % seqRange)
        ((nextDev w s).line err (cmd ++ List.replicate outLen 0xff))) s.hndl w.therm cmd
          outLen).hndl = ⟨s.hndl.seq + 1⟩ ∧
      (Librasp.execCmd cfg (lineEnv w.therm (s.hndl.seq % seqRange)
        ((nextDev w s).line err (cmd ++ List.replicate outLen 0xff))) s.hndl w.therm cmd
          outLen).ret = some (.success, out err) := by
    intro err
    have hlt : (cmd ++ out err).length < 256 := by
      rw [List.length_append, hlength]
      omega
    rw [hline err, lineEnv, dif_pos hlt]
    have htouch := execCmd_touchEnv cfg w.therm
      (show s.hndl.seq % seqRange = s.hndl.seq % seqRange from rfl)
      (List.length_pos_of_ne_nil hcmd) (hlength err ▸ hlen) hlt
    rwa [hlength] at htouch
  have hreq := request_eq (w := w)
    (fun e hndl => Librasp.execCmd cfg e hndl w.therm cmd outLen) (lineEnv w.therm) htrace
    (fun sendOk => execCmd_silent w.therm hcmd hlen s.hndl sendOk)
    (by rw [busBytes_map_write]; exact hreply)
  rw [busPullup_map_write, busBytes_map_write, Option.getD_none, Nat.mul_zero, ite_self,
    Nat.add_zero] at hreq
  exact hreq

/-- **A command with a strong pull-up.** What comes of `exec_cmd_pullup`. -/
theorem execCmdPullup_eq (hcfg : cfg.writePullup = true) (cmd : UInt8) (pullup : UInt32) :
    execCmdPullup cfg w cmd pullup s = ((w.fate s.reqs).result fun _ => [],
      { hndl := ⟨s.hndl.seq + 1⟩
        dev := if (w.fate s.reqs).reached then
            (nextDev w s).obey w (nextTime w s) (some (pullup.toNat % 2 ^ 16)) [cmd]
          else nextDev w s
        now := nextTime w s +
          if (w.fate s.reqs).reached then 1000 * (pullup.toNat % 2 ^ 16) else 0
        reqs := s.reqs + 1 }) :=
  request_eq (fun e hndl => Librasp.execCmdPullup cfg e hndl w.therm cmd pullup)
    (fun seq _ => statusEnv w.therm seq)
    (execCmdPullup_trace hcfg (show 16 ≠ 0 by decide) w.therm cmd pullup)
    (fun sendOk => execCmdPullup_silent w.therm hcfg cmd pullup s.hndl sendOk)
    fun _ => execCmdPullup_status w.therm hcfg cmd pullup s.hndl

end SiteM

end Librasp
