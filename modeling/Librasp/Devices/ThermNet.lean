import Librasp.Foundation.Zoom
import Librasp.W1.Answered
import Librasp.Devices.ThermProbe

/-!
# Thermometers on one bus

Many thermometers share a bus and the handle that they are asked through. A request goes to one of
them (`NetM.single`), or is obeyed by all (`NetM.execCmdAll`), or asks who is there
(`NetM.searchW1Slaves`). As for a single thermometer, a request or its reply may be lost.

* A thermometer on the bus is a part of the state (`slavePart`), and what was shown of one alone
  holds of it here by the rules of `Zoom`.
* All thermometers see the bytes on the bus. A command to all of them is what follows a reset and
  `SKIP_ROM` (`busCmd`), read off the real message of `exec_cmd_all`, with its byte too many.
* A search is answered by datagrams with the ids of the slaves, as the kernel would send them, and
  goes through the parser of the library.

**Main results.** `NetM.execCmdAll_eq` and `NetM.searchW1Slaves_eq` say what comes of a request,
for the caller and for the thermometers.
-/

namespace Librasp

/-! ### The bus -/

/-- A bus with thermometers, and what becomes of the requests to it. -/
structure ThermNet where
  master : UInt32
  /-- The slaves on the bus, by the replies to a search. -/
  found : List FoundIds
  sense : UInt64 → ℕ → Reading
  convTime : UInt64 → DsthRes → ℕ
  brownOut : UInt64 → Reading
  weakCopy : UInt64 → Settings
  fate : ℕ → Fate
  delay : ℕ → ℕ
  nap : ℕ → ℕ → ℕ
  /-- What the stack holds where `cmd_buf` is. -/
  stale : UInt8
  found_ne : found ≠ []
  length_found : found.length < 2 ^ 32

namespace ThermNet

variable (w : ThermNet)

/-- The slaves on the bus, in the order in which a search finds them. -/
def slaves : List UInt64 := w.found.flatMap FoundIds.ids

/-- The bus, as it is to one of the slaves. -/
def site (therm : UInt64) : Site where
  therm := therm
  sense := w.sense therm
  convTime := w.convTime therm
  brownOut := w.brownOut therm
  weakCopy := w.weakCopy therm
  fate := w.fate
  delay := w.delay
  nap := w.nap

end ThermNet

/-- Thermometers with the handle that they are asked through, at a time. -/
structure NetSt where
  hndl : W1Hndl
  devs : UInt64 → Thermometer
  now : ℕ
  reqs : ℕ

/-- A thermometer on the bus. -/
def slavePart (therm : UInt64) : Part NetSt SiteSt where
  get s := ⟨s.hndl, s.devs therm, s.now, s.reqs⟩
  put t s := ⟨t.hndl, Function.update s.devs therm t.dev, t.now, t.reqs⟩
  get_put t s :=
    congrArg (fun d => SiteSt.mk t.hndl d t.now t.reqs) (Function.update_self therm t.dev s.devs)

/-! ### Requests -/

/-- What all slaves take for a command: the bytes behind a reset and `SKIP_ROM`. -/
def busCmd : List BusAct → List UInt8
  | .reset :: .write b :: acts => if b = skipRom then busBytes acts else []
  | _ => []

/-- The status of a command to all slaves. -/
def ackReply (master : UInt32) (code : UInt8) : W1NetlinkMsg where
  type := w1MasterCmd
  status := 0
  id := master.toUInt64
  data := (W1NetlinkCmd.mk code 0 [] noData_lt).toBytes
  data_lt := lt_of_eq_of_lt (W1NetlinkCmd.length_toBytes _) (show 4 < 65536 by decide)

theorem length_ackReply (master : UInt32) (code : UInt8) :
    (ackReply master code).toBytes.length = 16 := by
  simp [ackReply, W1NetlinkMsg.len, W1NetlinkCmd.len, sizeofW1NetlinkMsg, sizeofW1NetlinkCmd]

theorem length_ackReply_lt (master : UInt32) (code : UInt8) :
    (ackReply master code).toBytes.length < 65536 := by
  rw [length_ackReply]
  decide

theorem length_ackReply_le (master : UInt32) (code : UInt8) :
    (ackReply master code).toBytes.length ≤ 4076 := by
  rw [length_ackReply]
  decide

/-- The statuses of a reset and of two writes. -/
def ackDatagrams (master seq : UInt32) : List Datagram :=
  [5, 1, 1].map fun code =>
    singleReply seq ackStatVal (ackReply master code) (length_ackReply_lt master code)

/-- A system in which the request with this sequence number is answered by the statuses. -/
def ackEnv (master seq : UInt32) : ThermEnv :=
  { muteEnv true with
    io := { (muteEnv true).io with
      events := recvEvents (ackDatagrams master seq) ++ [.pollTimeout] } }

/-- A system in which a search with this sequence number finds the slaves. -/
def foundEnv (w : ThermNet) (seq : UInt32) : ThermEnv :=
  { muteEnv true with
    io := { (muteEnv true).io with
      events := recvEvents (w.found.map fun f => f.datagram w1CmdSearch w.master seq) ++
        [.pollTimeout] } }

/-- Programs of requests to thermometers. -/
abbrev NetM (α : Type) := Prog LrErrc NetSt α

namespace NetM

variable (cfg : Config) (w : ThermNet)

/-- The time of the next request. -/
def nextTime (s : NetSt) : ℕ := s.now + w.delay s.reqs

/-- The thermometers at the next request. -/
def nextDevs (s : NetSt) : UInt64 → Thermometer := fun therm =>
  (s.devs therm).settle (nextTime w s)

/-- A request to one thermometer. -/
def single {α : Type} (therm : UInt64) (m : SiteM α) : NetM α := Prog.zoom (slavePart therm) m

/-- `exec_cmd_all`, without a strong pull-up. -/
def execCmdAll (cmd : List UInt8) : NetM (List UInt8) := fun s =>
  let fate := w.fate s.reqs
  let call := fun e : ThermEnv =>
    Librasp.execCmdAll cfg { e with mem := fun _ => w.stale } s.hndl w.master cmd false 0
  -- what is sent does not depend on the reply
  let sent := (call (muteEnv true)).sent
  let acts := (busTrace sent).getD []
  let seq := (sent.map fun x => x.2.seq).getD 0
  let r := call (fate.env fun _ => ackEnv w.master seq)
  (match r.ret with
    | none => .more
    | some (ret, out) => if ret = .success then .val out else .exit ret,
    { hndl := r.hndl
      devs := if fate.reached then fun therm =>
          (nextDevs w s therm).obey (w.site therm) (nextTime w s) (busPullup acts) (busCmd acts)
        else nextDevs w s
      now := nextTime w s
      reqs := s.reqs + 1 })

/-- `search_w1_slaves`. -/
def searchW1Slaves (list : IdList) : NetM (List UInt64) := fun s =>
  let fate := w.fate s.reqs
  let call := fun e : ThermEnv =>
    Librasp.searchW1Slaves cfg.word e.fuel s.hndl list none e.io w.master
  let seq := ((call (muteEnv true)).sent.map fun x => x.2.seq).getD 0
  let r := call (fate.env fun _ => foundEnv w seq)
  (match r.ret with
    | none => .more
    | some l =>
      if l.ret = .success then
        .val (idsOf ((Mem.writeAll (fun _ => 0) l.writes).read list.ids (8 * l.sz)))
      else .exit l.ret,
    { s with hndl := r.hndl, now := nextTime w s, reqs := s.reqs + 1 })

/-- `usleep`. -/
def usleep (usec : UInt32) : NetM Unit :=
  Prog.modify fun s => { s with now := s.now + w.nap s.reqs usec.toNat }

end NetM

/-! ### Commands to all -/

section Calls

variable {cmd : List UInt8}

/-- Who a message is for stays, whatever commands it is given. -/
theorem type_mst_addW1Cmd (m : W1Msg) (type : W1CmdType) (pData len : ℕ) (pullup : UInt32) :
    (addW1Cmd m type pData len pullup).2.type = m.type ∧
      (addW1Cmd m type pData len pullup).2.mst = m.mst := by
  obtain h | ⟨-, -, c, -, -, -, h⟩ := addW1Cmd_cases m type pData len pullup
  · rw [h]
    exact ⟨rfl, rfl⟩
  · rw [h]
    exact ⟨rfl, rfl⟩

theorem type_mst_execCmdAllMsg (cfg : Config) (cmdBuf : ℕ) (master : UInt32) (cmdLen : ℕ)
    (pullup : UInt32) :
    (execCmdAllMsg cfg cmdBuf master cmdLen false pullup).type = .master ∧
      (execCmdAllMsg cfg cmdBuf master cmdLen false pullup).mst = master := by
  rw [execCmdAllMsg, if_neg (fun h => Bool.false_ne_true h.2)]
  obtain ⟨htype, hmst⟩ := type_mst_addW1Cmd (w1MasterMsgInit master 3) .busReset 0 0 0
  obtain ⟨htype', hmst'⟩ := type_mst_addW1Cmd (addBusResetW1Cmd (w1MasterMsgInit master 3)).2 .write
    cmdBuf 1 0
  obtain ⟨htype'', hmst''⟩ := type_mst_addW1Cmd
    (addWriteW1Cmd (addBusResetW1Cmd (w1MasterMsgInit master 3)).2 cmdBuf 1).2 .write
    (cmdBuf + 1) (cmdLen + 1) 0
  refine ⟨htype''.trans (htype'.trans htype), hmst''.trans (hmst'.trans (hmst.trans ?_))⟩
  exact UInt32.toUInt32_toUInt64 master

/-- The statuses answer a message to the master. -/
theorem answers_ackReply (cfg : Config) {m : W1Msg} (htype : m.type = .master) (mem : Mem UInt8)
    (h : (m.wireCmds cfg mem).length < 65536) (code : UInt8) :
    Answers (m.wireMsg cfg mem h) (ackReply m.mst code) := by
  have htype' : (m.wireMsg cfg mem h).type = w1MasterCmd := by
    change m.wireType = _
    rw [W1Msg.wireType, htype]
  have hid : (m.wireMsg cfg mem h).id = m.mst.toUInt64 := by
    change m.wireId = _
    rw [W1Msg.wireId, htype]
  refine ⟨htype'.symm, fun _ => congrArg UInt64.toUInt32 hid.symm, fun hslave => ?_⟩
  rw [htype'] at hslave
  cases hslave

/-- The message of `exec_cmd_all` without a strong pull-up requires no reply. -/
theorem execCmdAllMsg_fits (cfg : Config) {cmdBuf : ℕ} (hbuf : cmdBuf ≠ 0) (master : UInt32)
    {cmdLen : ℕ} (hlen : cmdLen ≤ 31) (pullup : UInt32) :
    let m := execCmdAllMsg cfg cmdBuf master cmdLen false pullup
    m.WellFormed cfg ∧ m.nCmds = 3 ∧ sizeofW1NetlinkMsg + m.cmdsSize ≤ sizeofMsgBuf ∧
      ∀ i < m.nCmds, (m.cmds i).type.isRespRequired = false := by
  intro m
  have hcmds : m.cmdList = _ := cmdList_execCmdAllMsg hbuf master cmdLen false pullup
  rw [if_neg (fun h => Bool.false_ne_true h.2)] at hcmds
  have hn : m.nCmds = 3 := by
    rw [← m.length_cmdList, hcmds]
    rfl
  refine ⟨(built_execCmdAllMsg cmdBuf master cmdLen false pullup).wellFormed, hn, ?_, ?_⟩
  · rw [W1Msg.cmdsSize, hcmds]
    exact show 12 + (4 + 0 + 0 + (4 + 1 + 0 + (4 + (cmdLen + 1) + 0 + 0))) ≤ 4076 by omega
  · intro i hi
    have hall : ∀ c ∈ m.cmdList, c.type.isRespRequired = false := by
      rw [hcmds]
      simp [W1CmdType.isRespRequired]
    rw [← m.getElem_cmdList (by rwa [m.length_cmdList])]
    exact hall _ (List.getElem_mem _)

/-- `exec_cmd_all` takes a sequence number for its request. -/
theorem execCmdAll_sent (cfg : Config) (hlen : cmd.length ≤ 31) (master : UInt32) (pullup : UInt32)
    {e : ThermEnv} (hbuf : e.cmdBuf ≠ 0) (hndl : W1Hndl) :
    let m := execCmdAllMsg cfg e.cmdBuf master cmd.length false pullup
    let mem := (e.mem.write e.cmdBuf [skipRom]).write (e.cmdBuf + 1) cmd
    (execCmdAll cfg e hndl master cmd false pullup).hndl = ⟨hndl.seq + 1⟩ ∧
      ∃ (hsize : sizeofW1NetlinkMsg + m.cmdsSize ≤ sizeofMsgBuf) (bs : List UInt8) (h : _),
        (execCmdAll cfg e hndl master cmd false pullup).sent =
          some (bs, requestMsg (hndl.seq % seqRange)
            (m.wireMsg cfg mem (length_wireCmds_lt hsize)).toBytes h) := by
  intro m mem
  obtain ⟨hm, hn, hsize, -⟩ := execCmdAllMsg_fits cfg hbuf master hlen pullup
  obtain ⟨h, hsent⟩ := w1MsgExec_sent hm (by omega) hsize e.fuel hndl mem e.msgBuf e.io
  exact ⟨w1MsgExec_hndl hsent, hsize, _, h, hsent⟩

/-- `exec_cmd_all` without a reply. -/
theorem execCmdAll_silent (cfg : Config) (hlen : cmd.length ≤ 31) (master : UInt32)
    (pullup : UInt32) (mem : Mem UInt8) (hndl : W1Hndl) (sendOk : Bool) :
    IsSilent hndl sendOk
      (execCmdAll cfg { muteEnv sendOk with mem := mem } hndl master cmd false pullup) := by
  obtain ⟨hm, hn, hsize, -⟩ :=
    execCmdAllMsg_fits cfg (show 16 ≠ 0 by decide) master hlen pullup
  have hret := w1MsgExec_silent hm (by omega) hsize hndl
    ((mem.write 16 [skipRom]).write (16 + 1) cmd) sendOk
  obtain ⟨hhndl, hsize', bs, h, hsent⟩ := execCmdAll_sent cfg hlen master pullup
    (e := { muteEnv sendOk with mem := mem }) (show 16 ≠ 0 by decide) hndl
  have hout := congrArg
    (Option.map fun r : LrErrc × W1msgExecCbDta => (r.1, ([] : List UInt8))) hret
  exact ⟨hhndl, hout, congrArg (Option.map fun x : List UInt8 × CnMsg => x.2.seq) hsent⟩

theorem isPlain_of_mem_ackDatagrams {master seq : UInt32} {d : Datagram}
    (hd : d ∈ ackDatagrams master seq) (seq' : UInt32) : d.IsPlain seq' := by
  obtain ⟨code, -, rfl⟩ := List.mem_map.mp hd
  exact isPlain_singleReply (length_ackReply_lt master code) (length_ackReply_le master code) seq'

/-- What a message to the master is handed of the statuses. -/
theorem arrived_ackDatagrams (cfg : Config) {m : W1Msg} (htype : m.type = .master)
    (mem : Mem UInt8) (h : (m.wireCmds cfg mem).length < 65536) (seq : UInt32)
    (hlt : (m.wireMsg cfg mem h).toBytes.length < 65536) :
    ((ackDatagrams m.mst seq).flatMap fun d =>
        d.arrived (requestMsg seq (m.wireMsg cfg mem h).toBytes hlt)) =
      [5, 1, 1].map fun code => (ackReply m.mst code, true) := by
  rw [ackDatagrams, List.flatMap_map, List.map_eq_flatMap]
  refine List.flatMap_congr fun code _ => ?_
  refine arrived_singleReply (length_ackReply_lt m.mst code) (length_ackReply_le m.mst code) ?_
  rw [w1Req_requestMsg]
  exact answers_ackReply cfg htype mem h code

/-- `exec_cmd_all` succeeds when its statuses arrive: one for the reset and one for each of the
writes. -/
theorem execCmdAll_acked (cfg : Config) (hlen : cmd.length ≤ 31) (master : UInt32)
    (pullup : UInt32) (mem : Mem UInt8) (hndl : W1Hndl) :
    let r := execCmdAll cfg { ackEnv master (hndl.seq % seqRange) with mem := mem } hndl master
      cmd false pullup
    r.hndl = ⟨hndl.seq + 1⟩ ∧ r.ret = some (.success, []) := by
  obtain ⟨hm, hn, hsize, hopt⟩ :=
    execCmdAllMsg_fits cfg (show 16 ≠ 0 by decide) master hlen pullup
  obtain ⟨hhndl, hsize', bs, h, hsent⟩ := execCmdAll_sent cfg hlen master pullup
    (e := { ackEnv master (hndl.seq % seqRange) with mem := mem }) (show 16 ≠ 0 by decide) hndl
  obtain ⟨htype, hmst⟩ := type_mst_execCmdAllMsg cfg 16 master cmd.length pullup
  have harrived : ((ackDatagrams master (hndl.seq % seqRange)).flatMap fun d =>
      d.arrived (requestMsg (hndl.seq % seqRange) _ h)) =
      [5, 1, 1].map fun code => (ackReply master code, true) := by
    have hmaster := arrived_ackDatagrams cfg htype
      ((mem.write 16 [skipRom]).write (16 + 1) cmd) (length_wireCmds_lt hsize')
      (hndl.seq % seqRange) h
    rwa [hmst] at hmaster
  have hevents : (ackEnv master (hndl.seq % seqRange)).io.events =
      recvEvents (ackDatagrams master (hndl.seq % seqRange)) ++ .pollTimeout :: [] := rfl
  obtain ⟨dta, hret⟩ := w1MsgExec_optional hm (by omega) hsize (show 4112 < 4113 by decide)
    (show (ackEnv master (hndl.seq % seqRange)).io.sendOk = true from rfl) hevents hsent
    (fun d hd => isPlain_of_mem_ackDatagrams hd _) (show 3 < 2 ^ 32 by decide) hopt
    (by rw [harrived]; simp) (by
      rw [harrived]
      intro x hx _
      obtain ⟨code, -, rfl⟩ := List.mem_map.mp hx
      rfl)
  have hout := congrArg
    (Option.map fun r : LrErrc × W1msgExecCbDta => (r.1, ([] : List UInt8))) hret
  exact ⟨hhndl, hout⟩

end Calls

/-! ### What comes of a request -/

namespace NetM

variable {cfg : Config} {w : ThermNet} {s : NetSt}

/-- **A command to all.** Every thermometer obeys it, with the byte behind it that `cmd_buf` had. -/
theorem execCmdAll_eq {cmd : List UInt8} (hlen : cmd.length ≤ 31) :
    execCmdAll cfg w cmd s = ((w.fate s.reqs).result fun _ => [],
      { hndl := ⟨s.hndl.seq + 1⟩
        devs := if (w.fate s.reqs).reached then fun therm =>
            (nextDevs w s therm).obey (w.site therm) (nextTime w s) none (cmd ++ [w.stale])
          else nextDevs w s
        now := nextTime w s
        reqs := s.reqs + 1 }) := by
  have hsilent := fun sendOk => execCmdAll_silent cfg hlen w.master 0 (fun _ => w.stale)
    s.hndl sendOk
  have hacked := execCmdAll_acked cfg hlen w.master 0 (fun _ => w.stale) s.hndl
  have htrace : busTrace (Librasp.execCmdAll cfg { muteEnv true with mem := fun _ => w.stale }
      s.hndl w.master cmd false 0).sent = some (.reset :: .write skipRom ::
        (cmd ++ [w.stale]).map .write) := by
    rw [execCmdAll_trace (show 16 ≠ 0 by decide) w.master hlen, if_neg (by simp), List.append_nil]
    rfl
  have hpullup : busPullup (.reset :: .write skipRom :: (cmd ++ [w.stale]).map .write) = none := by
    exact busPullup_map_write (cmd ++ [w.stale])
  have hcmd : busCmd (.reset :: .write skipRom :: (cmd ++ [w.stale]).map .write) =
      cmd ++ [w.stale] := by
    rw [busCmd, if_pos rfl, busBytes_map_write]
  rw [execCmdAll, htrace, (hsilent true).sent_seq, Option.getD_some, Option.getD_some, hpullup,
    hcmd]
  rcases w.fate s.reqs with err | reached | _
  · rw [Fate.env, hacked.1, hacked.2]
    rfl
  · rw [Fate.env, (hsilent true).hndl_eq, (hsilent true).ret_eq]
    rfl
  · rw [Fate.env, (hsilent false).hndl_eq, (hsilent false).ret_eq]
    rfl

/-- **A search.** It lists the slaves, as many as there is room for. -/
theorem searchW1Slaves_eq {list : IdList} (hlist : list.Allocated cfg.word 8) :
    searchW1Slaves cfg w list s = ((w.fate s.reqs).result fun _ => w.slaves.take list.maxSz,
      { s with hndl := ⟨s.hndl.seq + 1⟩, now := nextTime w s, reqs := s.reqs + 1 }) := by
  have hseq := fun e : ThermEnv =>
    searchSlaves_seq cfg.word e.fuel s.hndl list none e.io w1CmdSearch w.master
  have hsilent : ∀ sendOk, ∃ r, _ := fun sendOk =>
    searchSlaves_silent cfg.word (show 4112 < 4113 by decide) s.hndl list none w1CmdSearch w.master
      (show (muteEnv sendOk).io.events = [.pollTimeout] from rfl)
  have hcall : ∀ e : ThermEnv, Librasp.searchW1Slaves cfg.word e.fuel s.hndl list none e.io
      w.master = searchSlaves cfg.word e.fuel s.hndl list none e.io w1CmdSearch w.master :=
    fun _ => rfl
  simp only [searchW1Slaves, hcall, (hseq _).1, (hseq _).2, Option.getD_some]
  rcases hfate : w.fate s.reqs with err | reached | _
  · obtain ⟨r, hret, hsucc, hread⟩ := searchSlaves_found none hlist
      (show 4112 < 4113 by decide)
      (show (foundEnv w (s.hndl.seq % seqRange)).io.sendOk = true from rfl) w.found_ne
      w.length_found (show (foundEnv w (s.hndl.seq % seqRange)).io.events =
        recvEvents _ ++ .pollTimeout :: [] from rfl)
    have hfuel : (foundEnv w (s.hndl.seq % seqRange)).fuel = 4113 := rfl
    rw [Fate.env, hfuel, hret]
    dsimp only
    rw [if_pos hsucc, hread]
    rfl
  · obtain ⟨r, hret, hcode⟩ := hsilent true
    have hfuel : (muteEnv true).fuel = 4113 := rfl
    rw [Fate.env, hfuel, hret]
    dsimp only
    rw [hcode]
    rfl
  · obtain ⟨r, hret, hcode⟩ := hsilent false
    have hfuel : (muteEnv false).fuel = 4113 := rfl
    rw [Fate.env, hfuel, hret]
    dsimp only
    rw [hcode]
    rfl

end NetM

end Librasp
