import Librasp.W1.Decode

/-!
# `ds_therm.c`: commands to thermometers

A command goes to a single slave (`execCmd`, `execCmdPullup`) or to all slaves on a bus
(`execCmdAll`). For a single slave the bus driver sends the addressing itself; for all of them the
message begins with a bus reset and a SKIP_ROM byte of its own.

`busTrace` is what the bus driver does on the bus for the datagram that was sent. A command for
all slaves puts one byte too many on the bus, a byte of `cmd_buf` that was never set
(`execCmdAll_trace`).

* `ThermEnv` is what a call meets: where its `cmd_buf` is and what was there, and the system it
  sends its message to. The functions have the source's configuration switches.
* `BusAct` is what is seen on the bus: bytes, a reset, a strong pull-up for a time. The driver's
  reading of a datagram is that of the decoder, so what is on the bus is told by what was sent,
  not by what was meant.
* `Broadcast` are the operations that the header has for one thermometer and for all of them.
  `Agrees` says that both have the same effect on the bus behind the addressing.

**Main result.** `agrees_iff`: they agree only when neither of them is supported.
-/

namespace Librasp

/-! ### The model -/

/-- `SKIP_ROM`. -/
def skipRom : UInt8 := 0xcc

/-- `CONVERT_T`. -/
def convertT : UInt8 := 0x44

/-- `COPY_SCRATCHPAD`. -/
def copyScratchpad : UInt8 := 0x48

/-- `WRITE_SCRATCHPAD`. -/
def writeScratchpad : UInt8 := 0x4e

/-- `RECALL_EEPROM`. -/
def recallEeprom : UInt8 := 0xb8

/-- `DS18S20`. -/
def ds18s20 : UInt64 := 0x10

/-- `dsth_get_family`. -/
def dsthGetFamily (id : UInt64) : UInt64 := id &&& 0xff

/-- What a call meets: where its `cmd_buf` is and what the memory holds, what `msg_buf` of
`w1_msg_exec` holds, and the system. -/
structure ThermEnv where
  fuel : ℕ
  cmdBuf : ℕ
  mem : Mem UInt8
  msgBuf : Mem UInt8
  io : IoEnv

section Model

variable (cfg : Config) (e : ThermEnv) (hndl : W1Hndl)

/-- `exec_cmd`. On success it returns what is copied to `p_out`. The length of the touch command is
a `size_t`. -/
def execCmd (slv : UInt64) (cmd : List UInt8) (outLen : ℕ) : SendRecv (List UInt8) :=
  let mem := e.mem.write e.cmdBuf cmd
  let mem := if 0 < outLen then
    mem.write (e.cmdBuf + cmd.length) (List.replicate outLen 0xff) else mem
  let m := (addTouchW1Cmd (w1SlaveMsgInit slv 1) e.cmdBuf
    ((cmd.length + outLen) % 2 ^ cfg.word.bits)).2
  let r := w1MsgExec cfg e.fuel hndl m mem e.msgBuf e.io
  ⟨r.hndl, r.sent, r.ret.map fun r =>
    (r.1, if r.1 = .success ∧ 0 < outLen then
      (mem.writeAll r.2.writes).read (e.cmdBuf + cmd.length) outLen else [])⟩

/-- `exec_cmd_pullup`. -/
def execCmdPullup (slv : UInt64) (cmd : UInt8) (pullup : UInt32) : SendRecv (List UInt8) :=
  let mem := e.mem.write e.cmdBuf [cmd]
  let m := (addWritePullupW1Cmd cfg (w1SlaveMsgInit slv 1) e.cmdBuf 1 pullup).2
  let r := w1MsgExec cfg e.fuel hndl m mem e.msgBuf e.io
  ⟨r.hndl, r.sent, r.ret.map fun r => (r.1, [])⟩

/-- The message of `exec_cmd_all`. -/
def execCmdAllMsg (cfg : Config) (cmdBuf : ℕ) (master : UInt32) (cmdLen : ℕ) (hasPullup : Bool)
    (pullup : UInt32) : W1Msg :=
  let m := (addBusResetW1Cmd (w1MasterMsgInit master 3)).2
  let m := (addWriteW1Cmd m cmdBuf 1).2
  if cfg.writePullup ∧ hasPullup then
    (addWritePullupW1Cmd cfg m (cmdBuf + 1) (cmdLen + 1) pullup).2
  else (addWriteW1Cmd m (cmdBuf + 1) (cmdLen + 1)).2

/-- `exec_cmd_all`. -/
def execCmdAll (master : UInt32) (cmd : List UInt8) (hasPullup : Bool) (pullup : UInt32) :
    SendRecv (List UInt8) :=
  let mem := (e.mem.write e.cmdBuf [skipRom]).write (e.cmdBuf + 1) cmd
  let m := execCmdAllMsg cfg e.cmdBuf master cmd.length hasPullup pullup
  let r := w1MsgExec cfg e.fuel hndl m mem e.msgBuf e.io
  ⟨r.hndl, r.sent, r.ret.map fun r => (r.1, [])⟩

/-- A function that the library is not configured for. -/
def notSupp : SendRecv (List UInt8) := ⟨hndl, none, some (.notSupp, [])⟩

/-- `dsth_convert_t`. -/
def dsthConvertT (therm : UInt64) (statLen : ℕ) : SendRecv (List UInt8) :=
  execCmd cfg e hndl therm [convertT] statLen

/-- `dsth_convert_t_with_pullup`. -/
def dsthConvertTWithPullup (therm : UInt64) (pullup : UInt32) : SendRecv (List UInt8) :=
  if cfg.writePullup then execCmdPullup cfg e hndl therm convertT pullup else notSupp hndl

/-- `dsth_write_scratchpad`. -/
def dsthWriteScratchpad (therm : UInt64) (th tl cfgReg : UInt8) : SendRecv (List UInt8) :=
  if dsthGetFamily therm ≠ ds18s20 then
    execCmd cfg e hndl therm [writeScratchpad, th, tl, cfgReg] 0
  else execCmd cfg e hndl therm [writeScratchpad, th, tl] 0

/-- `dsth_copy_scratchpad`. -/
def dsthCopyScratchpad (therm : UInt64) : SendRecv (List UInt8) :=
  execCmd cfg e hndl therm [copyScratchpad] 0

/-- `dsth_copy_scratchpad_with_pullup`. -/
def dsthCopyScratchpadWithPullup (therm : UInt64) (pullup : UInt32) : SendRecv (List UInt8) :=
  if cfg.writePullup then execCmdPullup cfg e hndl therm copyScratchpad pullup else notSupp hndl

/-- `dsth_recall_eeprom`: `status` is false for a `NULL` pointer to the status. -/
def dsthRecallEeprom (therm : UInt64) (status : Bool) : SendRecv (List UInt8) :=
  execCmd cfg e hndl therm [recallEeprom] (if status then 1 else 0)

/-- `dsth_convert_t_all`. -/
def dsthConvertTAll (master : UInt32) : SendRecv (List UInt8) :=
  execCmdAll cfg e hndl master [convertT] false 0

/-- `dsth_convert_t_with_pullup_all`. -/
def dsthConvertTWithPullupAll (master pullup : UInt32) : SendRecv (List UInt8) :=
  if cfg.writePullup then execCmdAll cfg e hndl master [convertT] true pullup else notSupp hndl

/-- `dsth_write_scratchpad_all`. -/
def dsthWriteScratchpadAll (master : UInt32) (th tl cfgReg : UInt8) : SendRecv (List UInt8) :=
  execCmdAll cfg e hndl master [writeScratchpad, th, tl, cfgReg] false 0

/-- `dsth_write_scratchpad_all_ds18s20`. -/
def dsthWriteScratchpadAllDs18s20 (master : UInt32) (th tl : UInt8) : SendRecv (List UInt8) :=
  execCmdAll cfg e hndl master [writeScratchpad, th, tl] false 0

/-- `dsth_copy_scratchpad_all`. -/
def dsthCopyScratchpadAll (master : UInt32) : SendRecv (List UInt8) :=
  execCmdAll cfg e hndl master [copyScratchpad] false 0

/-- `dsth_copy_scratchpad_with_pullup_all`. -/
def dsthCopyScratchpadWithPullupAll (master pullup : UInt32) : SendRecv (List UInt8) :=
  if cfg.writePullup then execCmdAll cfg e hndl master [copyScratchpad] true pullup
  else notSupp hndl

/-- `dsth_recall_eeprom_all`. -/
def dsthRecallEepromAll (master : UInt32) : SendRecv (List UInt8) :=
  execCmdAll cfg e hndl master [recallEeprom] false 0

end Model

/-! ### On the bus -/

/-- What the bus driver does on the bus. -/
inductive BusAct
  | reset
  | read
  | write (b : UInt8)
  /-- A strong pull-up, with its time. -/
  | pullup (ms : ℕ)
  deriving DecidableEq, Repr

/-- What the bus driver does for a w1 command: `W1_CMD_READ`, `W1_CMD_WRITE` and `W1_CMD_TOUCH`,
`W1_CMD_RESET`, and `W1_CMD_WRITE_PULLUP` of the kernel patch, which writes the block behind the
time and then keeps the pull-up for that time. -/
def busActs (cmd : UInt8) (data : List UInt8) : List BusAct :=
  if cmd = 0 then data.map fun _ => .read
  else if cmd = 1 ∨ cmd = 4 then data.map .write
  else if cmd = 5 then [.reset]
  else if cmd = 20 then (data.drop 2).map .write ++ [.pullup (leVal (data.take 2))]
  else []

/-- What the bus driver does for the commands of the datagram sent: for a slave, after the
addressing, which the driver does by itself. -/
def busTrace (sent : Option (List UInt8 × CnMsg)) : Option (List BusAct) :=
  sent.bind fun x => (decodeRequest x.1).map fun d =>
    d.w1cmds.flatMap fun c => busActs c.cmd c.data

section Trace

variable {cfg : Config} {e : ThermEnv} {hndl : W1Hndl}

/-- The bus driver does for a message what its commands say. -/
theorem busTrace_w1MsgExec {m : W1Msg} (hm : m.WellFormed cfg) (hpos : 0 < m.nCmds)
    (hsize : sizeofW1NetlinkMsg + m.cmdsSize ≤ sizeofMsgBuf) (fuel : ℕ) (hndl : W1Hndl)
    (mem msgBuf : Mem UInt8) (env : IoEnv) :
    busTrace (w1MsgExec cfg fuel hndl m mem msgBuf env).sent =
      some (m.cmdList.flatMap fun c => busActs (convertCmdType cfg c.type) (c.wireData mem)) := by
  obtain ⟨bs, h, w1cmds, hsent, hdec, hmap⟩ :=
    w1MsgExec_decodes hm hpos hsize fuel hndl mem msgBuf env
  have hacts : (w1cmds.flatMap fun c => busActs c.cmd c.data) =
      (w1cmds.map fun k => (k.cmd, k.res, k.data)).flatMap fun x => busActs x.1 x.2.2 := by
    rw [List.flatMap_map]
  rw [hsent, busTrace, Option.bind_some, hdec, Option.map_some, hacts, hmap, List.flatMap_map]

/-- A write with a pull-up on the bus. -/
theorem busActs_writePullup (hcfg : cfg.writePullup = true) (mem : Mem UInt8) (pData len : ℕ)
    (pullup : UInt32) :
    busActs (convertCmdType cfg .writePullup)
        (W1Cmd.wireData mem ⟨.writePullup, len, pData, pullup⟩) =
      (mem.read pData len).map .write ++ [.pullup (pullup.toNat % 2 ^ 16)] := by
  have hcode : convertCmdType cfg .writePullup = 20 := by rw [convertCmdType, if_pos hcfg]
  have hval : leVal (leBytes 2 (pullup.toNat % 2 ^ 16)) = pullup.toNat % 2 ^ 16 :=
    leVal_leBytes_of_lt (Nat.mod_lt _ (by decide))
  rw [hcode, W1Cmd.wireData, busActs, if_neg (by decide), if_neg (by decide), if_neg (by decide),
    if_pos rfl, List.drop_left' (length_leBytes ..), List.take_left' (length_leBytes ..), hval]

theorem busActs_write (mem : Mem UInt8) (pData len : ℕ) (pullup : UInt32) :
    busActs (convertCmdType cfg .write) (W1Cmd.wireData mem ⟨.write, len, pData, pullup⟩) =
      (mem.read pData len).map .write := rfl

theorem busActs_touch (mem : Mem UInt8) (pData len : ℕ) (pullup : UInt32) :
    busActs (convertCmdType cfg .touch) (W1Cmd.wireData mem ⟨.touch, len, pData, pullup⟩) =
      (mem.read pData len).map .write := rfl

theorem busActs_busReset (mem : Mem UInt8) (pData len : ℕ) (pullup : UInt32) :
    busActs (convertCmdType cfg .busReset)
      (W1Cmd.wireData mem ⟨.busReset, len, pData, pullup⟩) = [.reset] := rfl

/-! ### A single slave -/

/-- `exec_cmd` writes the command, and ones for what is to be read. -/
theorem execCmd_trace (hbuf : e.cmdBuf ≠ 0) (slv : UInt64) {cmd : List UInt8} {outLen : ℕ}
    (hcmd : cmd ≠ []) (hlen : cmd.length + outLen ≤ 32) :
    busTrace (execCmd cfg e hndl slv cmd outLen).sent =
      some ((cmd ++ List.replicate outLen 0xff).map .write) := by
  have hpos : 0 < cmd.length := List.length_pos_of_ne_nil hcmd
  have hmod : (cmd.length + outLen) % 2 ^ cfg.word.bits = cmd.length + outLen := by
    have hbits := cfg.word.two_pow_bits_ge
    exact Nat.mod_eq_of_lt (by omega)
  obtain ⟨mem, hmem⟩ : ∃ mem, mem = if 0 < outLen then (e.mem.write e.cmdBuf cmd).write
    (e.cmdBuf + cmd.length) (List.replicate outLen 0xff) else e.mem.write e.cmdBuf cmd := ⟨_, rfl⟩
  have hread : mem.read e.cmdBuf (cmd.length + outLen) = cmd ++ List.replicate outLen 0xff := by
    rcases Nat.eq_zero_or_pos outLen with rfl | hout
    · rw [hmem, if_neg (Nat.lt_irrefl 0), Nat.add_zero, Mem.read_write_self]
      exact (List.append_nil cmd).symm
    · have happend := (e.mem.write e.cmdBuf cmd).read_write_append e.cmdBuf cmd.length
        (List.replicate outLen 0xff)
      rw [List.length_replicate, Mem.read_write_self] at happend
      rw [hmem, if_pos hout, happend]
  obtain ⟨m, hm⟩ : ∃ m, m =
    (addTouchW1Cmd (w1SlaveMsgInit slv 1) e.cmdBuf (cmd.length + outLen)).2 := ⟨_, rfl⟩
  have hbuilt : Built cfg m := hm ▸ .addTouch (.slaveInit slv 1) _ _
  have hcmds : m.cmdList = [⟨.touch, cmd.length + outLen, e.cmdBuf, 0⟩] := by
    rw [hm, addTouchW1Cmd, addW1Cmd_eq _ _ (by simp) Nat.one_pos (by omega), cmdList_append]
    rfl
  have hn : m.nCmds = 1 := by
    rw [← m.length_cmdList, hcmds, List.length_singleton]
  have hsize : sizeofW1NetlinkMsg + m.cmdsSize ≤ sizeofMsgBuf := by
    have hbuf : sizeofMsgBuf = 4076 := rfl
    simp only [W1Msg.cmdsSize, hcmds, List.map_cons, List.map_nil, List.sum_cons, List.sum_nil,
      W1Cmd.size, sizeofW1NetlinkMsg, hbuf]
    rw [if_neg (by decide)]
    omega
  have htrace := busTrace_w1MsgExec hbuilt.wellFormed (by omega) hsize e.fuel hndl mem e.msgBuf e.io
  rw [hcmds, List.flatMap_singleton, busActs_touch, hread] at htrace
  rw [execCmd, hmod, ← hmem, ← hm]
  exact htrace

/-- `exec_cmd_pullup` writes the command byte and then keeps the pull-up. -/
theorem execCmdPullup_trace (hcfg : cfg.writePullup = true) (hbuf : e.cmdBuf ≠ 0) (slv : UInt64)
    (cmd : UInt8) (pullup : UInt32) :
    busTrace (execCmdPullup cfg e hndl slv cmd pullup).sent =
      some [.write cmd, .pullup (pullup.toNat % 2 ^ 16)] := by
  obtain ⟨m, hm⟩ : ∃ m, m =
    (addWritePullupW1Cmd cfg (w1SlaveMsgInit slv 1) e.cmdBuf 1 pullup).2 := ⟨_, rfl⟩
  have hbuilt : Built cfg m := hm ▸ .addWritePullup (.slaveInit slv 1) _ _ _
  have hcmds : m.cmdList = [⟨.writePullup, 1, e.cmdBuf, pullup⟩] := by
    rw [hm, addWritePullupW1Cmd, if_pos hcfg,
      addW1Cmd_eq _ _ (by simp) Nat.one_pos (by omega), cmdList_append]
    rfl
  have hn : m.nCmds = 1 := by
    rw [← m.length_cmdList, hcmds, List.length_singleton]
  have hsize : sizeofW1NetlinkMsg + m.cmdsSize ≤ sizeofMsgBuf := by
    rw [W1Msg.cmdsSize, hcmds]
    exact show 12 + 7 ≤ 4076 by omega
  have htrace := busTrace_w1MsgExec hbuilt.wellFormed (by omega) hsize e.fuel hndl
    (e.mem.write e.cmdBuf [cmd]) e.msgBuf e.io
  rw [hcmds, List.flatMap_singleton, busActs_writePullup hcfg] at htrace
  rw [execCmdPullup, ← hm]
  refine htrace.trans (congrArg some ?_)
  exact congrArg (fun bs : List UInt8 => bs.map BusAct.write ++ [.pullup (pullup.toNat % 2 ^ 16)])
    (Mem.read_write_self e.mem e.cmdBuf [cmd])

/-! ### All slaves -/

theorem built_execCmdAllMsg (cmdBuf : ℕ) (master : UInt32) (cmdLen : ℕ) (hasPullup : Bool)
    (pullup : UInt32) : Built cfg (execCmdAllMsg cfg cmdBuf master cmdLen hasPullup pullup) := by
  have hwrite : Built cfg
      (addWriteW1Cmd (addBusResetW1Cmd (w1MasterMsgInit master 3)).2 cmdBuf 1).2 :=
    .addWrite (.addBusReset (.masterInit master 3)) _ _
  rw [execCmdAllMsg]
  split
  · exact .addWritePullup hwrite _ _ _
  · exact .addWrite hwrite _ _

/-- The commands of `exec_cmd_all`: the last one covers a byte more than the command has. -/
theorem cmdList_execCmdAllMsg {cmdBuf : ℕ} (hbuf : cmdBuf ≠ 0) (master : UInt32) (cmdLen : ℕ)
    (hasPullup : Bool) (pullup : UInt32) :
    (execCmdAllMsg cfg cmdBuf master cmdLen hasPullup pullup).cmdList =
      [⟨.busReset, 0, 0, 0⟩, ⟨.write, 1, cmdBuf, 0⟩,
        if cfg.writePullup ∧ hasPullup then ⟨.writePullup, cmdLen + 1, cmdBuf + 1, pullup⟩
        else ⟨.write, cmdLen + 1, cmdBuf + 1, 0⟩] := by
  have hmaster : (w1MasterMsgInit master 3).type ≠ .slave := fun h => nomatch h
  rw [execCmdAllMsg, addBusResetW1Cmd, addW1Cmd_eq _ _ (fun h => hmaster h.2)
      (show 0 < 3 by omega) Iff.rfl,
    addWriteW1Cmd, addW1Cmd_eq _ _ (by simp) (show 1 < 3 by omega) (by omega)]
  split
  · rename_i h
    rw [addWritePullupW1Cmd, if_pos h.1, addW1Cmd_eq _ _ (by simp) (show 2 < 3 by omega)
      (by omega), cmdList_append, cmdList_append, cmdList_append]
    rfl
  · rw [addWriteW1Cmd, addW1Cmd_eq _ _ (by simp) (show 2 < 3 by omega) (by omega),
      cmdList_append, cmdList_append, cmdList_append]
    rfl

/-- `exec_cmd_all` writes after the command the byte of `cmd_buf` behind it, which is not set: its
last command begins at the second byte of `cmd_buf` and has the length of all of them. -/
theorem execCmdAll_trace (hbuf : e.cmdBuf ≠ 0) (master : UInt32) {cmd : List UInt8}
    (hlen : cmd.length ≤ 31) (hasPullup : Bool) (pullup : UInt32) :
    busTrace (execCmdAll cfg e hndl master cmd hasPullup pullup).sent =
      some ([.reset, .write skipRom] ++
        ((cmd ++ [e.mem (e.cmdBuf + 1 + cmd.length)]).map .write ++
          if cfg.writePullup ∧ hasPullup then [.pullup (pullup.toNat % 2 ^ 16)] else [])) := by
  obtain ⟨mem, hmem⟩ : ∃ mem, mem =
    (e.mem.write e.cmdBuf [skipRom]).write (e.cmdBuf + 1) cmd := ⟨_, rfl⟩
  obtain ⟨m, hm⟩ : ∃ m, m = execCmdAllMsg cfg e.cmdBuf master cmd.length hasPullup pullup :=
    ⟨_, rfl⟩
  have hskip : mem.read e.cmdBuf 1 = [skipRom] := by
    rw [hmem, Mem.read_write_of_disjoint _ (Or.inl le_rfl)]
    exact Mem.read_write_self e.mem e.cmdBuf [skipRom]
  have hread : mem.read (e.cmdBuf + 1) (cmd.length + 1) =
      cmd ++ [e.mem (e.cmdBuf + 1 + cmd.length)] := by
    -- neither of the two copies reaches the byte behind the command
    have hstale : mem (e.cmdBuf + 1 + cmd.length) = e.mem (e.cmdBuf + 1 + cmd.length) := by
      rw [hmem, Mem.write_of_ge _ le_rfl, Mem.write_of_ge]
      simp
    rw [Mem.read_add, Mem.read_succ, Mem.read_zero, hstale, hmem, Mem.read_write_self]
  have hcmds := congrArg W1Msg.cmdList hm
  rw [cmdList_execCmdAllMsg hbuf] at hcmds
  have hbuilt : Built cfg m := hm ▸ built_execCmdAllMsg ..
  have hn : m.nCmds = 3 := by
    rw [← m.length_cmdList, hcmds]
    rfl
  have hsize : sizeofW1NetlinkMsg + m.cmdsSize ≤ sizeofMsgBuf := by
    have hbuf : sizeofMsgBuf = 4076 := rfl
    rw [W1Msg.cmdsSize, hcmds]
    split <;> simp only [List.map_cons, List.map_nil, List.sum_cons, List.sum_nil, W1Cmd.size,
      sizeofW1NetlinkMsg, hbuf, reduceCtorEq, if_true, if_false] <;> omega
  have htrace := busTrace_w1MsgExec hbuilt.wellFormed (by omega) hsize e.fuel hndl mem e.msgBuf e.io
  rw [execCmdAll, ← hmem, ← hm]
  refine htrace.trans (congrArg some ?_)
  rw [hcmds, List.flatMap_cons, List.flatMap_cons, List.flatMap_singleton, busActs_busReset,
    busActs_write, hskip]
  split
  · rename_i h
    rw [busActs_writePullup h.1, hread]
    rfl
  · rw [busActs_write, hread, List.append_nil]
    rfl

end Trace

/-! ### Broadcasts and their counterparts -/

/-- An operation that the header has for one thermometer and for all of them. -/
inductive Broadcast
  | convertT
  | convertTWithPullup (pullup : UInt32)
  | writeScratchpad (th tl cfgReg : UInt8)
  | writeScratchpadDs18s20 (th tl : UInt8)
  | copyScratchpad
  | copyScratchpadWithPullup (pullup : UInt32)
  | recallEeprom

namespace Broadcast

/-- The function for all thermometers on a bus. -/
def all (cfg : Config) (e : ThermEnv) (hndl : W1Hndl) (master : UInt32) :
    Broadcast → SendRecv (List UInt8)
  | .convertT => dsthConvertTAll cfg e hndl master
  | .convertTWithPullup pullup => dsthConvertTWithPullupAll cfg e hndl master pullup
  | .writeScratchpad th tl cfgReg => dsthWriteScratchpadAll cfg e hndl master th tl cfgReg
  | .writeScratchpadDs18s20 th tl => dsthWriteScratchpadAllDs18s20 cfg e hndl master th tl
  | .copyScratchpad => dsthCopyScratchpadAll cfg e hndl master
  | .copyScratchpadWithPullup pullup => dsthCopyScratchpadWithPullupAll cfg e hndl master pullup
  | .recallEeprom => dsthRecallEepromAll cfg e hndl master

/-- The counterpart for a single thermometer, without status probing. -/
def single (cfg : Config) (e : ThermEnv) (hndl : W1Hndl) (therm : UInt64) :
    Broadcast → SendRecv (List UInt8)
  | .convertT => dsthConvertT cfg e hndl therm 0
  | .convertTWithPullup pullup => dsthConvertTWithPullup cfg e hndl therm pullup
  | .writeScratchpad th tl cfgReg => dsthWriteScratchpad cfg e hndl therm th tl cfgReg
  | .writeScratchpadDs18s20 th tl => dsthWriteScratchpad cfg e hndl therm th tl 0
  | .copyScratchpad => dsthCopyScratchpad cfg e hndl therm
  | .copyScratchpadWithPullup pullup => dsthCopyScratchpadWithPullup cfg e hndl therm pullup
  | .recallEeprom => dsthRecallEeprom cfg e hndl therm false

/-- The thermometers that a form of WRITE_SCRATCHPAD is for. -/
def Suits (therm : UInt64) : Broadcast → Prop
  | .writeScratchpad .. => dsthGetFamily therm ≠ ds18s20
  | .writeScratchpadDs18s20 .. => dsthGetFamily therm = ds18s20
  | _ => True

/-- The function-command bytes. -/
def cmd : Broadcast → List UInt8
  | .convertT | .convertTWithPullup _ => [Librasp.convertT]
  | .writeScratchpad th tl cfgReg => [Librasp.writeScratchpad, th, tl, cfgReg]
  | .writeScratchpadDs18s20 th tl => [Librasp.writeScratchpad, th, tl]
  | .copyScratchpad | .copyScratchpadWithPullup _ => [Librasp.copyScratchpad]
  | .recallEeprom => [Librasp.recallEeprom]

/-- The strong pull-up requested. -/
def pullup : Broadcast → Option UInt32
  | .convertTWithPullup pullup | .copyScratchpadWithPullup pullup => some pullup
  | _ => none

/-- The library is not configured for the operation. -/
def NotSupp (cfg : Config) (op : Broadcast) : Prop := op.pullup.isSome ∧ cfg.writePullup = false

instance (cfg : Config) (op : Broadcast) : Decidable (op.NotSupp cfg) :=
  inferInstanceAs (Decidable (_ ∧ _))

/-- What belongs on the bus behind the addressing: the command bytes, and then the pull-up. -/
def expected (cfg : Config) (op : Broadcast) : Option (List BusAct) :=
  if op.NotSupp cfg then none
  else some (op.cmd.map .write ++ op.pullup.toList.map fun p => .pullup (p.toNat % 2 ^ 16))

variable {cfg : Config} {e : ThermEnv} {hndl : W1Hndl}

/-- An operation that is supported goes through `exec_cmd_all`. -/
theorem all_eq {op : Broadcast} (h : ¬ op.NotSupp cfg) (master : UInt32) :
    op.all cfg e hndl master =
      execCmdAll cfg e hndl master op.cmd op.pullup.isSome (op.pullup.getD 0) := by
  cases op with
  | convertTWithPullup | copyScratchpadWithPullup =>
    have hcfg : cfg.writePullup = true := Bool.eq_true_of_not_eq_false fun hf => h ⟨rfl, hf⟩
    exact if_pos hcfg
  | _ => rfl

/-- An operation that is not supported sends nothing. -/
theorem all_of_notSupp {op : Broadcast} (h : op.NotSupp cfg) (master : UInt32) :
    op.all cfg e hndl master = notSupp hndl := by
  have hcfg : ¬ cfg.writePullup = true := fun ht => nomatch ht.symm.trans h.2
  cases op with
  | convertTWithPullup | copyScratchpadWithPullup => exact if_neg hcfg
  | _ => exact nomatch h.1

theorem length_cmd_le (op : Broadcast) : op.cmd.length ≤ 4 := by
  cases op <;> simp [cmd]

theorem expected_of_notSupp {op : Broadcast} (h : op.NotSupp cfg) : op.expected cfg = none :=
  if_pos h

theorem expected_of_supp {op : Broadcast} (h : ¬ op.NotSupp cfg) :
    op.expected cfg =
      some (op.cmd.map .write ++ op.pullup.toList.map fun p => .pullup (p.toNat % 2 ^ 16)) :=
  if_neg h

/-- On the bus the counterpart is its command bytes, and then the pull-up. -/
theorem busTrace_single (hbuf : e.cmdBuf ≠ 0) {therm : UInt64} {op : Broadcast}
    (hsuits : op.Suits therm) :
    busTrace (op.single cfg e hndl therm).sent = op.expected cfg := by
  have hexec : ∀ cmd : List UInt8, cmd ≠ [] → cmd.length ≤ 4 →
      busTrace (execCmd cfg e hndl therm cmd 0).sent = some (cmd.map .write) := by
    intro cmd hne hlen
    refine (execCmd_trace hbuf therm hne (show cmd.length + 0 ≤ 32 by omega)).trans ?_
    rw [List.replicate_zero, List.append_nil]
  -- the functions with a pull-up differ in their command byte only
  have hpullup : ∀ (op : Broadcast) (b : UInt8) (p : UInt32), op.cmd = [b] → op.pullup = some p →
      busTrace (if cfg.writePullup then execCmdPullup cfg e hndl therm b p
        else notSupp hndl).sent = op.expected cfg := by
    intro op b p hb hp
    by_cases hcfg : cfg.writePullup = true
    · have hsupp : ¬ op.NotSupp cfg := fun h => nomatch hcfg.symm.trans h.2
      rw [if_pos hcfg, execCmdPullup_trace hcfg hbuf, expected_of_supp hsupp, hb, hp]
      rfl
    · have hnot : op.NotSupp cfg := ⟨hp ▸ rfl, Bool.eq_false_iff.mpr hcfg⟩
      rw [if_neg hcfg, expected_of_notSupp hnot]
      rfl
  cases op with
  | convertT => exact hexec [Librasp.convertT] (by simp) (by simp)
  | copyScratchpad => exact hexec [Librasp.copyScratchpad] (by simp) (by simp)
  | recallEeprom => exact hexec [Librasp.recallEeprom] (by simp) (by simp)
  | writeScratchpad th tl cfgReg =>
    have hfamily : dsthGetFamily therm ≠ ds18s20 := hsuits
    rw [single, dsthWriteScratchpad, if_pos hfamily]
    exact hexec [Librasp.writeScratchpad, th, tl, cfgReg] (by simp) (by simp)
  | writeScratchpadDs18s20 th tl =>
    have hfamily : dsthGetFamily therm = ds18s20 := hsuits
    rw [single, dsthWriteScratchpad, if_neg (not_not_intro hfamily)]
    exact hexec [Librasp.writeScratchpad, th, tl] (by simp) (by simp)
  | convertTWithPullup p => exact hpullup _ _ _ rfl rfl
  | copyScratchpadWithPullup p => exact hpullup _ _ _ rfl rfl

/-- On the bus the broadcast has a byte more, which `cmd_buf` held before the call. -/
theorem busTrace_all (hbuf : e.cmdBuf ≠ 0) {op : Broadcast} (h : ¬ op.NotSupp cfg)
    (master : UInt32) :
    busTrace (op.all cfg e hndl master).sent =
      some ([.reset, .write skipRom] ++
        ((op.cmd ++ [e.mem (e.cmdBuf + 1 + op.cmd.length)]).map .write ++
          op.pullup.toList.map fun p => .pullup (p.toNat % 2 ^ 16))) := by
  have hlen : op.cmd.length ≤ 31 := op.length_cmd_le.trans (by omega)
  rw [all_eq h, execCmdAll_trace hbuf master hlen]
  congr 3
  cases hp : op.pullup with
  | none => simp
  | some p =>
    have hcfg : cfg.writePullup = true :=
      Bool.eq_true_of_not_eq_false fun hf => h ⟨hp ▸ rfl, hf⟩
    simp [hcfg]

/-- A call on a silent system; its `cmd_buf` holds what an earlier call left. -/
def staleEnv (stale : UInt8) : ThermEnv where
  fuel := 2
  cmdBuf := 100
  mem := fun _ => stale
  msgBuf := fun _ => 0
  io := ⟨fun _ => 0, fun _ => 0, true, [.pollTimeout]⟩

/-- A broadcast puts on the bus a reset, a SKIP_ROM byte and what the counterpart sends after the
addressing: the command bytes and the pull-up requested. -/
structure Agrees (cfg : Config) (op : Broadcast) (all single : Option (List UInt8 × CnMsg)) :
    Prop where
  single_eq : busTrace single = op.expected cfg
  all_eq : busTrace all = (busTrace single).map ([.reset, .write skipRom] ++ ·)

/-- Behind CONVERT_T a broadcast writes what the byte of `cmd_buf` happened to be. -/
theorem not_agrees_convertT :
    busTrace (dsthConvertTAll ⟨false, .lp64⟩ (staleEnv 0x99) w1Init 1).sent =
        some [.reset, .write skipRom, .write Librasp.convertT, .write 0x99] ∧
      ¬ convertT.Agrees ⟨false, .lp64⟩ (convertT.all ⟨false, .lp64⟩ (staleEnv 0x99) w1Init 1).sent
        (convertT.single ⟨false, .lp64⟩ (staleEnv 0x99) w1Init 0x28).sent := by
  have hall : busTrace (dsthConvertTAll ⟨false, .lp64⟩ (staleEnv 0x99) w1Init 1).sent =
      some [.reset, .write skipRom, .write Librasp.convertT, .write 0x99] :=
    convertT.busTrace_all (by decide) (by decide) 1
  refine ⟨hall, fun h => ?_⟩
  have heq := hall.symm.trans h.all_eq
  rw [h.single_eq] at heq
  exact absurd heq (by decide)

/-- A broadcast agrees with its counterpart only when neither of them is supported. The byte that
is written behind the command is on the bus whatever it is. -/
theorem agrees_iff {e e' : ThermEnv} {hndl hndl' : W1Hndl} {op : Broadcast} {therm : UInt64}
    (hbuf : e.cmdBuf ≠ 0) (hbuf' : e'.cmdBuf ≠ 0) (hsuits : op.Suits therm) (master : UInt32) :
    op.Agrees cfg (op.all cfg e hndl master).sent (op.single cfg e' hndl' therm).sent ↔
      op.NotSupp cfg := by
  have hsingle : busTrace (op.single cfg e' hndl' therm).sent = op.expected cfg :=
    busTrace_single hbuf' hsuits
  constructor
  · intro h
    by_contra hsupp
    have hall := h.all_eq
    rw [busTrace_all hbuf hsupp master, hsingle, expected_of_supp hsupp,
      Option.map_some] at hall
    -- the stale byte makes the broadcast one act longer
    have hlen := congrArg (Option.map List.length) hall
    simp at hlen
  · intro h
    refine ⟨hsingle, ?_⟩
    rw [all_of_notSupp h, hsingle, expected_of_notSupp h]
    rfl

/-- Without `CONFIG_WRITE_PULLUP` neither function sends anything. -/
theorem agrees_convertTWithPullup :
    (convertTWithPullup 750).Agrees ⟨false, .lp64⟩
      ((convertTWithPullup 750).all ⟨false, .lp64⟩ (staleEnv 0x99) w1Init 1).sent
      ((convertTWithPullup 750).single ⟨false, .lp64⟩ (staleEnv 0x99) w1Init 0x28).sent :=
  (agrees_iff (by decide) (by decide)
    (show (convertTWithPullup 750).Suits 0x28 from trivial) 1).mpr ⟨rfl, rfl⟩

end Broadcast

end Librasp
