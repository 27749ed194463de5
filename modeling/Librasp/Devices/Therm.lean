import Librasp.Foundation.Prog
import Librasp.W1.ExecFrame
import Librasp.Devices.Crc8
import Librasp.Devices.Temperature

/-!
# `ds_therm.c`: the operations on a thermometer

An operation is a program of calls of `exec_cmd`, `exec_cmd_pullup` and `exec_cmd_all`, and leaves
with the first code that is not `LREC_SUCCESS` (`EXEC_RG`). The state has the w1 handle, and a
record of the calls that were made: which `cmd_buf` they had, and what was written into it.

No call may write behind its `cmd_buf`. The lengths are those of the commands of the header, but
`dsth_convert_t` passes on the length of its caller: it is in bounds for 31 bytes at most
(`allInBounds_iff`).

* What is written into `cmd_buf` is what the function itself fills in and what the replies copy
  there (`execCmdFills`, `execCmdReplies`); the replies write where the command is
  (`execCmdReplies_inside`).
* `ThermOp` are the operations of the header, with their arguments. The waiting of `dsth_probe`
  does not matter here and is left out.
* The bounds are kept by `ensures_execCmd` and the like, one lemma for each function for the bus,
  and by the rules of `Prog` for the operations made of them.

**Main result.** `allInBounds_iff`, for every operation, environment and state.
-/

namespace Librasp

/-! ### Calls -/

/-- A call that goes to the bus. -/
structure BusCall where
  /-- The address of `cmd_buf`, and its size. -/
  cmdBuf : ℕ
  size : ℕ
  cmdLen : ℕ
  outLen : ℕ
  /-- What was written into `cmd_buf`. -/
  writes : List (ℕ × List UInt8)
  sent : Option (List UInt8 × CnMsg)
  /-- The code returned, `none` while the call is waiting. -/
  ret : Option LrErrc

/-- The state of an operation. -/
structure ThermSt where
  hndl : W1Hndl
  calls : List BusCall

/-- What the operations are. A program that ends with a value has returned `LREC_SUCCESS`. -/
abbrev ThermM (α : Type) := Prog LrErrc ThermSt α

section ExecCmd

variable (cfg : Config) (e : ThermEnv) (hndl : W1Hndl) (slv : UInt64) (cmd : List UInt8)
  (outLen : ℕ)

/-- What `exec_cmd` itself writes into its `cmd_buf`: the command, and ones for what is to be
read. -/
def execCmdFills (cmdBuf : ℕ) : List (ℕ × List UInt8) :=
  (cmdBuf, cmd) ::
    if 0 < outLen then [(cmdBuf + cmd.length, List.replicate outLen 0xff)] else []

/-- The message of `exec_cmd`. -/
def execCmdMsg (cmdBuf cmdLen : ℕ) : W1Msg :=
  (addTouchW1Cmd (w1SlaveMsgInit slv 1) cmdBuf ((cmdLen + outLen) % 2 ^ cfg.word.bits)).2

/-- The call of `w1_msg_exec` in `exec_cmd`. -/
def execCmdRun : SendRecv W1msgExecCbDta :=
  w1MsgExec cfg e.fuel hndl (execCmdMsg cfg slv outLen e.cmdBuf cmd.length)
    (e.mem.writeAll (execCmdFills cmd outLen e.cmdBuf)) e.msgBuf e.io

/-- What the replies write into `cmd_buf`. -/
def execCmdReplies : List (ℕ × List UInt8) :=
  ((execCmdRun cfg e hndl slv cmd outLen).ret.map fun r => r.2.writes).getD []

/-- `exec_cmd`, in terms of its writes. -/
theorem execCmd_eq :
    execCmd cfg e hndl slv cmd outLen =
      ⟨(execCmdRun cfg e hndl slv cmd outLen).hndl, (execCmdRun cfg e hndl slv cmd outLen).sent,
        (execCmdRun cfg e hndl slv cmd outLen).ret.map fun r =>
          (r.1, if r.1 = .success ∧ 0 < outLen then
            ((e.mem.writeAll (execCmdFills cmd outLen e.cmdBuf)).writeAll r.2.writes).read
              (e.cmdBuf + cmd.length) outLen else [])⟩ := by
  have hmem : (if 0 < outLen then (e.mem.write e.cmdBuf cmd).write (e.cmdBuf + cmd.length)
      (List.replicate outLen 0xff) else e.mem.write e.cmdBuf cmd) =
      e.mem.writeAll (execCmdFills cmd outLen e.cmdBuf) := by
    rw [execCmdFills]
    split_ifs <;> rfl
  rw [execCmd, execCmdRun, execCmdMsg, hmem]

end ExecCmd

namespace ThermM

/-! ### The functions for the bus -/

section Model

variable (cfg : Config) (env : ℕ → ThermEnv)

/-- Make a call, in the environment of the next one. -/
def busCall (f : ThermEnv → W1Hndl → SendRecv (List UInt8))
    (call : ThermEnv → W1Hndl → SendRecv (List UInt8) → BusCall) : ThermM (List UInt8) := fun s =>
  let e := env s.calls.length
  let r := f e s.hndl
  let s' : ThermSt := ⟨r.hndl, s.calls ++ [call e s.hndl r]⟩
  match r.ret with
  | none => (.more, s')
  | some (ret, out) => if ret = .success then (.val out, s') else (.exit ret, s')

/-- How an operation ends when a call fails. -/
def failed {α : Type} : Option LrErrc → Outcome LrErrc α
  | none => .more
  | some ret => .exit ret

theorem failed_ne_val {α : Type} (ret : Option LrErrc) (a : α) : failed ret ≠ .val a := by
  intro h
  cases ret <;> cases h

/-- An operation that goes on after a call ends when it fails. -/
theorem bind_of_failed {α β : Type} {m : ThermM α} {ret : Option LrErrc} {s s' : ThermSt}
    (h : m s = (failed ret, s')) (f : α → ThermM β) : (m >>= f) s = (failed ret, s') := by
  cases ret with
  | none => exact Prog.bind_of_more h f
  | some ret => exact Prog.bind_of_exit h f

section BusCall

variable {env : ℕ → ThermEnv} {f : ThermEnv → W1Hndl → SendRecv (List UInt8)}
  {call : ThermEnv → W1Hndl → SendRecv (List UInt8) → BusCall} {s : ThermSt}

/-- However a call ends, it is recorded. -/
theorem busCall_snd :
    (busCall env f call s).2 = ⟨(f (env s.calls.length) s.hndl).hndl,
      s.calls ++ [call (env s.calls.length) s.hndl (f (env s.calls.length) s.hndl)]⟩ := by
  rw [busCall]
  rcases (f (env s.calls.length) s.hndl).ret with _ | ⟨ret, out⟩
  · rfl
  · dsimp only
    split_ifs <;> rfl

theorem busCall_val_iff {out : List UInt8} :
    (busCall env f call s).1 = .val out ↔
      (f (env s.calls.length) s.hndl).ret = some (.success, out) := by
  rw [busCall]
  rcases (f (env s.calls.length) s.hndl).ret with _ | ⟨ret, bs⟩
  · simp
  · dsimp only
    split_ifs with hret
    · simp [hret]
    · simp [hret]

/-- A call has succeeded, or an operation ends with it. -/
theorem busCall_cases
    (hcall : ∀ e hndl (r : SendRecv (List UInt8)), (call e hndl r).ret = r.ret.map Prod.fst) :
    let r := f (env s.calls.length) s.hndl
    let c := call (env s.calls.length) s.hndl r
    (c.ret = some .success ∧ ∃ out,
        busCall env f call s = (.val out, ⟨r.hndl, s.calls ++ [c]⟩)) ∨
      (c.ret ≠ some .success ∧
        busCall env f call s = (failed c.ret, ⟨r.hndl, s.calls ++ [c]⟩)) := by
  intro r c
  have hret : c.ret = r.ret.map Prod.fst := hcall _ _ _
  have hsnd : (busCall env f call s).2 = ⟨r.hndl, s.calls ++ [c]⟩ := busCall_snd
  rcases hr : r.ret with _ | ⟨ret, out⟩
  · rw [hr, Option.map_none] at hret
    refine Or.inr ⟨by simp [hret], Prod.ext ?_ hsnd⟩
    rw [hret, busCall, hr]
    rfl
  · rw [hr, Option.map_some] at hret
    by_cases hs : ret = .success
    · refine Or.inl ⟨by simp [hret, hs], out, Prod.ext (busCall_val_iff.mpr ?_) hsnd⟩
      exact hs ▸ hr
    · refine Or.inr ⟨by simp [hret, hs], Prod.ext ?_ hsnd⟩
      rw [hret, busCall, hr]
      dsimp only
      rw [if_neg hs]
      rfl

end BusCall

/-- `exec_cmd`. -/
def execCmd (slv : UInt64) (cmd : List UInt8) (outLen : ℕ) : ThermM (List UInt8) :=
  busCall env (fun e hndl => Librasp.execCmd cfg e hndl slv cmd outLen) fun e hndl r =>
    { cmdBuf := e.cmdBuf
      size := 32
      cmdLen := cmd.length
      outLen := outLen
      writes := execCmdFills cmd outLen e.cmdBuf ++ execCmdReplies cfg e hndl slv cmd outLen
      sent := r.sent
      ret := r.ret.map Prod.fst }

/-- `exec_cmd_pullup`. -/
def execCmdPullup (slv : UInt64) (cmd : UInt8) (pullup : UInt32) : ThermM (List UInt8) :=
  busCall env (fun e hndl => Librasp.execCmdPullup cfg e hndl slv cmd pullup) fun e _ r =>
    { cmdBuf := e.cmdBuf
      size := 8
      cmdLen := 1
      outLen := 0
      writes := [(e.cmdBuf, [cmd])]
      sent := r.sent
      ret := r.ret.map Prod.fst }

/-- `exec_cmd_all`. -/
def execCmdAll (master : UInt32) (cmd : List UInt8) (hasPullup : Bool) (pullup : UInt32) :
    ThermM (List UInt8) :=
  busCall env (fun e hndl => Librasp.execCmdAll cfg e hndl master cmd hasPullup pullup)
    fun e _ r =>
      { cmdBuf := e.cmdBuf
        size := 32
        cmdLen := 1 + cmd.length
        outLen := 0
        writes := [(e.cmdBuf, [skipRom]), (e.cmdBuf + 1, cmd)]
        sent := r.sent
        ret := r.ret.map Prod.fst }

/-! ### The operations -/

/-- `READ_POW_SUPPLY`. -/
def readPowSupply : UInt8 := 0xb4

/-- `READ_SCRATCHPAD`. -/
def readScratchpad : UInt8 := 0xbe

/-- `dsth_read_pow_supply`: whether the power is parasitic. -/
def dsthReadPowSupply (therm : UInt64) : ThermM Bool := do
  let resp ← execCmd cfg env therm [readPowSupply] 1
  pure (resp.getD 0 0 &&& 1 = 0)

/-- `dsth_convert_t`. -/
def dsthConvertT (therm : UInt64) (statLen : ℕ) : ThermM (List UInt8) :=
  execCmd cfg env therm [convertT] statLen

/-- `dsth_convert_t_with_pullup`. -/
def dsthConvertTWithPullup (therm : UInt64) (pullup : UInt32) : ThermM (List UInt8) :=
  if cfg.writePullup then execCmdPullup cfg env therm convertT pullup else Prog.exit .notSupp

/-- The bytes of a scratchpad. -/
def scratchpadOf (bs : List UInt8) : DsthScratchpad where
  tempLsb := bs.getD 0 0
  tempHsb := bs.getD 1 0
  th := bs.getD 2 0
  tl := bs.getD 3 0
  cfgReg := bs.getD 4 0
  reserved := bs.getD 5 0
  cntRem := bs.getD 6 0
  cntPerC := bs.getD 7 0
  crc := bs.getD 8 0

/-- `dsth_read_scratchpad`. -/
def dsthReadScratchpad (therm : UInt64) : ThermM DsthScratchpad := do
  let bs ← execCmd cfg env therm [readScratchpad] 9
  if crc8 (bs.take 8) ≠ (scratchpadOf bs).crc then Prog.exit .dtaCrpt
  else pure (scratchpadOf bs)

/-- `dsth_write_scratchpad`. -/
def dsthWriteScratchpad (therm : UInt64) (th tl cfgReg : UInt8) : ThermM (List UInt8) :=
  if dsthGetFamily therm ≠ ds18s20 then
    execCmd cfg env therm [writeScratchpad, th, tl, cfgReg] 0
  else execCmd cfg env therm [writeScratchpad, th, tl] 0

/-- `dsth_copy_scratchpad`. -/
def dsthCopyScratchpad (therm : UInt64) : ThermM (List UInt8) :=
  execCmd cfg env therm [copyScratchpad] 0

/-- `dsth_copy_scratchpad_with_pullup`. -/
def dsthCopyScratchpadWithPullup (therm : UInt64) (pullup : UInt32) : ThermM (List UInt8) :=
  if cfg.writePullup then execCmdPullup cfg env therm copyScratchpad pullup
  else Prog.exit .notSupp

/-- `dsth_recall_eeprom`. -/
def dsthRecallEeprom (therm : UInt64) (status : Bool) : ThermM (List UInt8) :=
  execCmd cfg env therm [recallEeprom] (if status then 1 else 0)

/-- The functions for all thermometers on a bus. -/
def dsthAll (master : UInt32) (op : Broadcast) : ThermM (List UInt8) :=
  if op.NotSupp cfg then Prog.exit .notSupp
  else execCmdAll cfg env master op.cmd op.pullup.isSome (op.pullup.getD 0)

/-- `dsth_get_res`. -/
def dsthGetRes (therm : UInt64) : ThermM DsthRes :=
  if dsthGetFamily therm ≠ ds18s20 then do
    let scpd ← dsthReadScratchpad cfg env therm
    pure (.ofUInt8 (cfgRes scpd.cfgReg))
  else pure .bit12

/-- `SET_BITFLD`. -/
def setBitfld (v b m : UInt8) : UInt8 := (v &&& ~~~m) ||| b

/-- `dsth_set_res`. -/
def dsthSetRes (therm : UInt64) (res : DsthRes) : ThermM Unit :=
  if dsthGetFamily therm ≠ ds18s20 then do
    let scpd ← dsthReadScratchpad cfg env therm
    let _ ← dsthWriteScratchpad cfg env therm scpd.th scpd.tl
      (setBitfld scpd.cfgReg ((res.toUInt8 &&& 3) <<< 5) ((3 : UInt8) <<< 5))
    pure ()
  else if res ≠ .bit12 then Prog.exit .devErr
  else pure ()

/-- `dsth_get_conv_time`. -/
def dsthGetConvTime (res : DsthRes) : UInt32 := 750 >>> (3 - res.toUInt8.toUInt32 % 4)

/-- The power supply, as far as `dsth_probe` asks for it. -/
def probePower (therm : UInt64) : ThermM Bool :=
  if cfg.writePullup then dsthReadPowSupply cfg env therm else pure false

/-- The conversion of `dsth_probe`. -/
def probeConvert (therm : UInt64) (isParas : Bool) (res : DsthRes) : ThermM (List UInt8) :=
  if isParas then dsthConvertTWithPullup cfg env therm (dsthGetConvTime res)
  else dsthConvertT cfg env therm 0

/-- `dsth_probe`, without the waiting. -/
def dsthProbe (therm : UInt64) : ThermM (Option ℤ) := do
  let isParas ← probePower cfg env therm
  let res ← dsthGetRes cfg env therm
  let _ ← probeConvert cfg env therm isParas res
  let scpd ← dsthReadScratchpad cfg env therm
  pure (dsthGetTempScratchpad therm scpd)

end Model

end ThermM

/-- The operations of the header. -/
inductive ThermOp
  | readPowSupply (therm : UInt64)
  | convertT (therm : UInt64) (statLen : ℕ)
  | convertTWithPullup (therm : UInt64) (pullup : UInt32)
  | readScratchpad (therm : UInt64)
  | writeScratchpad (therm : UInt64) (th tl cfgReg : UInt8)
  | copyScratchpad (therm : UInt64)
  | copyScratchpadWithPullup (therm : UInt64) (pullup : UInt32)
  | recallEeprom (therm : UInt64) (status : Bool)
  | all (master : UInt32) (op : Broadcast)
  | getRes (therm : UInt64)
  | setRes (therm : UInt64) (res : DsthRes)
  | probe (therm : UInt64)

namespace ThermOp

/-- The program of an operation, without what it returns. -/
def prog (cfg : Config) (env : ℕ → ThermEnv) : ThermOp → ThermM Unit
  | readPowSupply therm => do let _ ← ThermM.dsthReadPowSupply cfg env therm
  | convertT therm statLen => do let _ ← ThermM.dsthConvertT cfg env therm statLen
  | convertTWithPullup therm pullup => do
    let _ ← ThermM.dsthConvertTWithPullup cfg env therm pullup
  | readScratchpad therm => do let _ ← ThermM.dsthReadScratchpad cfg env therm
  | writeScratchpad therm th tl cfgReg => do
    let _ ← ThermM.dsthWriteScratchpad cfg env therm th tl cfgReg
  | copyScratchpad therm => do let _ ← ThermM.dsthCopyScratchpad cfg env therm
  | copyScratchpadWithPullup therm pullup => do
    let _ ← ThermM.dsthCopyScratchpadWithPullup cfg env therm pullup
  | recallEeprom therm status => do let _ ← ThermM.dsthRecallEeprom cfg env therm status
  | all master op => do let _ ← ThermM.dsthAll cfg env master op
  | getRes therm => do let _ ← ThermM.dsthGetRes cfg env therm
  | setRes therm res => ThermM.dsthSetRes cfg env therm res
  | probe therm => do let _ ← ThermM.dsthProbe cfg env therm

/-- An operation on a handle. -/
def run (cfg : Config) (env : ℕ → ThermEnv) (hndl : W1Hndl) (op : ThermOp) :
    Outcome LrErrc Unit × ThermSt :=
  op.prog cfg env ⟨hndl, []⟩

/-- A status is asked for that is longer than what `cmd_buf` has behind the command. -/
def Overlong : ThermOp → Prop
  | convertT _ statLen => 31 < statLen
  | _ => False

end ThermOp

/-! ### The bounds of `cmd_buf` -/

/-- Every byte that is written is one of a buffer. -/
def Within (base size : ℕ) (w : ℕ × List UInt8) : Prop :=
  ∀ x, w.1 ≤ x → x < w.1 + w.2.length → base ≤ x ∧ x < base + size

theorem within_of_le {base size a : ℕ} {bs : List UInt8} (hlo : base ≤ a)
    (hhi : a + bs.length ≤ base + size) : Within base size (a, bs) :=
  fun _ hx hlt => ⟨hlo.trans hx, hlt.trans_le hhi⟩

theorem Within.mono {base size size' : ℕ} {w : ℕ × List UInt8} (h : Within base size w)
    (hle : size ≤ size') : Within base size' w :=
  fun x hx hlt => ⟨(h x hx hlt).1, (h x hx hlt).2.trans_le (Nat.add_le_add_left hle _)⟩

/-- A call stays within its `cmd_buf`: the command and what is to be read fit in, and only
`cmd_buf` is written. Or it is refused, with nothing written. -/
def BusCall.InBounds (c : BusCall) : Prop :=
  (c.cmdLen + c.outLen ≤ c.size ∧ ∀ w ∈ c.writes, Within c.cmdBuf c.size w) ∨
    c.writes = [] ∧ c.ret ≠ some .success

theorem inBounds_of_writes {cmdBuf size cmdLen outLen : ℕ} {writes : List (ℕ × List UInt8)}
    {sent : Option (List UInt8 × CnMsg)} {ret : Option LrErrc} (hlen : cmdLen + outLen ≤ size)
    (hw : ∀ w ∈ writes, Within cmdBuf size w) :
    BusCall.InBounds ⟨cmdBuf, size, cmdLen, outLen, writes, sent, ret⟩ := Or.inl ⟨hlen, hw⟩

/-- All calls of an operation stay within their `cmd_buf`. -/
def AllInBounds (s : ThermSt) : Prop := ∀ c ∈ s.calls, c.InBounds

/-- The bounds hold wherever an operation ends. -/
def boundExits : Prog.Exits LrErrc ThermSt := ⟨fun _ => AllInBounds, AllInBounds⟩

section Bounds

open Prog

variable {cfg : Config} {env : ℕ → ThermEnv} {s : ThermSt}

/-- The replies are written where the command is. -/
theorem execCmdReplies_inside (e : ThermEnv) (hndl : W1Hndl) (slv : UInt64) (cmd : List UInt8)
    (outLen : ℕ) :
    ∀ w ∈ execCmdReplies cfg e hndl slv cmd outLen, Within e.cmdBuf (cmd.length + outLen) w := by
  intro w hw x hx hlt
  rw [execCmdReplies] at hw
  rcases hret : (execCmdRun cfg e hndl slv cmd outLen).ret with _ | ⟨ret, dta⟩
  · rw [hret] at hw
    exact absurd hw List.not_mem_nil
  rw [hret, Option.map_some, Option.getD_some, eq_replay_of_w1MsgExec hret] at hw
  obtain ⟨c, hc, -, haddr, hlen⟩ := isCmdWrite_replay _ _ _ w hw
  -- the message has one command, with the buffer and the length that `exec_cmd` gives
  obtain hnone | ⟨-, -, d, -, -, hd, hmsg⟩ := addW1Cmd_cases (w1SlaveMsgInit slv 1) .touch e.cmdBuf
    ((cmd.length + outLen) % 2 ^ cfg.word.bits) 0
  · have hnil : (execCmdMsg cfg slv outLen e.cmdBuf cmd.length).cmdList = [] := by
      rw [execCmdMsg, addTouchW1Cmd, hnone]
      rfl
    rw [hnil] at hc
    exact absurd hc List.not_mem_nil
  · have hlist : (execCmdMsg cfg slv outLen e.cmdBuf cmd.length).cmdList = [d] := by
      rw [execCmdMsg, addTouchW1Cmd, hmsg, cmdList_append]
      rfl
    rw [hlist, List.mem_singleton] at hc
    subst hc
    have hmod := Nat.mod_le (cmd.length + outLen) (2 ^ cfg.word.bits)
    obtain ⟨-, -, hclen, hcdata⟩ | ⟨-, hclen, -⟩ := hd <;> omega

/-- A call in bounds keeps the others in bounds. -/
theorem ensures_busCall {f : ThermEnv → W1Hndl → SendRecv (List UInt8)}
    {call : ThermEnv → W1Hndl → SendRecv (List UInt8) → BusCall} (hs : AllInBounds s)
    (hcall : ∀ e hndl r, (call e hndl r).InBounds) :
    Ensures (ThermM.busCall env f call) s (fun _ => AllInBounds) boundExits := by
  have hcalls : AllInBounds (ThermM.busCall env f call s).2 := by
    rw [ThermM.busCall_snd]
    exact List.forall_mem_append.mpr ⟨hs, List.forall_mem_singleton.mpr (hcall _ _ _)⟩
  rw [Ensures]
  rcases hrun : ThermM.busCall env f call s with ⟨_ | _ | _, s'⟩
  · rwa [hrun] at hcalls
  · rwa [hrun] at hcalls
  · rwa [hrun] at hcalls

/-- `exec_cmd` is in bounds when its lengths are. -/
theorem ensures_execCmd (hs : AllInBounds s) (slv : UInt64) {cmd : List UInt8} {outLen : ℕ}
    (hlen : cmd.length + outLen ≤ 32) :
    Ensures (ThermM.execCmd cfg env slv cmd outLen) s (fun _ => AllInBounds) boundExits := by
  refine ensures_busCall hs fun e hndl r =>
    inBounds_of_writes hlen (List.forall_mem_append.mpr ⟨?_, ?_⟩)
  · rw [execCmdFills, List.forall_mem_cons]
    refine ⟨within_of_le le_rfl (by omega), ?_⟩
    split_ifs
    · rw [List.forall_mem_singleton]
      exact within_of_le (Nat.le_add_right _ _) (by rw [List.length_replicate]; omega)
    · exact List.forall_mem_nil _
  · exact fun w hw => (execCmdReplies_inside e hndl slv cmd outLen w hw).mono hlen

theorem ensures_execCmdPullup (hs : AllInBounds s) (slv : UInt64) (cmd : UInt8)
    (pullup : UInt32) :
    Ensures (ThermM.execCmdPullup cfg env slv cmd pullup) s (fun _ => AllInBounds) boundExits :=
  ensures_busCall hs fun _ _ _ => inBounds_of_writes (by decide)
    (List.forall_mem_singleton.mpr (within_of_le le_rfl (Nat.add_le_add_left (by simp) _)))

theorem ensures_execCmdAll (hs : AllInBounds s) (master : UInt32) {cmd : List UInt8}
    (hlen : cmd.length ≤ 31) (hasPullup : Bool) (pullup : UInt32) :
    Ensures (ThermM.execCmdAll cfg env master cmd hasPullup pullup) s (fun _ => AllInBounds)
      boundExits := by
  refine ensures_busCall hs fun e hndl r => inBounds_of_writes (by omega)
    (List.forall_mem_cons.mpr ⟨?_, List.forall_mem_singleton.mpr ?_⟩)
  · exact within_of_le le_rfl (Nat.add_le_add_left (by simp) _)
  · exact within_of_le (Nat.le_add_right _ _) (by omega)

/-- An early exit. -/
theorem ensures_exit {α : Type} (hs : AllInBounds s) (err : LrErrc) :
    Ensures (Prog.exit err : ThermM α) s (fun _ => AllInBounds) boundExits := hs

/-- Whatever is done with a value. -/
theorem ensures_bind_bounds {α β : Type} {m : ThermM α} {f : α → ThermM β}
    (hm : Ensures m s (fun _ => AllInBounds) boundExits)
    (hf : ∀ a s', AllInBounds s' → Ensures (f a) s' (fun _ => AllInBounds) boundExits) :
    Ensures (m >>= f) s (fun _ => AllInBounds) boundExits := ensures_bind hm hf

theorem ensures_dsthReadScratchpad (hs : AllInBounds s) (therm : UInt64) :
    Ensures (ThermM.dsthReadScratchpad cfg env therm) s (fun _ => AllInBounds) boundExits := by
  refine ensures_bind_bounds (ensures_execCmd hs therm (by decide)) fun bs s' hs' => ?_
  split_ifs
  · exact ensures_exit hs' _
  · exact hs'

theorem ensures_dsthWriteScratchpad (hs : AllInBounds s) (therm : UInt64)
    (th tl cfgReg : UInt8) :
    Ensures (ThermM.dsthWriteScratchpad cfg env therm th tl cfgReg) s (fun _ => AllInBounds)
      boundExits := by
  rw [ThermM.dsthWriteScratchpad]
  split_ifs
  · exact ensures_execCmd hs therm (show 4 + 0 ≤ 32 by decide)
  · exact ensures_execCmd hs therm (show 3 + 0 ≤ 32 by decide)

theorem ensures_dsthGetRes (hs : AllInBounds s) (therm : UInt64) :
    Ensures (ThermM.dsthGetRes cfg env therm) s (fun _ => AllInBounds) boundExits := by
  rw [ThermM.dsthGetRes]
  split_ifs
  · exact ensures_bind_bounds (ensures_dsthReadScratchpad hs therm) fun _ _ hs' => hs'
  · exact hs

theorem ensures_dsthReadPowSupply (hs : AllInBounds s) (therm : UInt64) :
    Ensures (ThermM.dsthReadPowSupply cfg env therm) s (fun _ => AllInBounds) boundExits :=
  ensures_bind_bounds (ensures_execCmd hs therm (by decide)) fun _ _ hs' => hs'

theorem ensures_dsthConvertT (hs : AllInBounds s) (therm : UInt64) {statLen : ℕ}
    (hlen : statLen ≤ 31) :
    Ensures (ThermM.dsthConvertT cfg env therm statLen) s (fun _ => AllInBounds) boundExits :=
  ensures_execCmd hs therm (by rw [List.length_singleton]; omega)

/-- The functions with a pull-up. -/
theorem ensures_withPullup (hs : AllInBounds s) (therm : UInt64) (cmd : UInt8)
    (pullup : UInt32) :
    Ensures (if cfg.writePullup then ThermM.execCmdPullup cfg env therm cmd pullup
      else Prog.exit .notSupp) s (fun _ => AllInBounds) boundExits := by
  split_ifs
  · exact ensures_execCmdPullup hs therm cmd pullup
  · exact ensures_exit hs _

theorem ensures_dsthProbe (hs : AllInBounds s) (therm : UInt64) :
    Ensures (ThermM.dsthProbe cfg env therm) s (fun _ => AllInBounds) boundExits := by
  have hpower : Ensures (ThermM.probePower cfg env therm) s (fun _ => AllInBounds)
      boundExits := by
    rw [ThermM.probePower]
    split_ifs
    · exact ensures_dsthReadPowSupply hs therm
    · exact hs
  refine ensures_bind_bounds hpower fun isParas s1 h1 => ?_
  refine ensures_bind_bounds (ensures_dsthGetRes h1 therm) fun res s2 h2 => ?_
  have hconvert : Ensures (ThermM.probeConvert cfg env therm isParas res) s2
      (fun _ => AllInBounds) boundExits := by
    rw [ThermM.probeConvert]
    split_ifs
    · exact ensures_withPullup h2 therm _ _
    · exact ensures_dsthConvertT h2 therm (Nat.zero_le _)
  refine ensures_bind_bounds hconvert fun _ s3 h3 => ?_
  exact ensures_bind_bounds (ensures_dsthReadScratchpad h3 therm) fun _ _ h4 => h4

end Bounds

namespace ThermOp

variable {cfg : Config} {env : ℕ → ThermEnv}

/-- An operation that is not overlong stays in bounds. -/
theorem ensures_prog {s : ThermSt} (hs : AllInBounds s) {op : ThermOp} (h : ¬ op.Overlong) :
    Prog.Ensures (op.prog cfg env) s (fun _ => AllInBounds) boundExits := by
  have hunit : ∀ {α : Type} {m : ThermM α},
      Prog.Ensures m s (fun _ => AllInBounds) boundExits →
      Prog.Ensures (do let _ ← m) s (fun _ => AllInBounds) boundExits :=
    fun hm => ensures_bind_bounds hm fun _ _ hs' => hs'
  cases op with
  | readPowSupply therm => exact hunit (ensures_dsthReadPowSupply hs therm)
  | convertT therm statLen => exact hunit (ensures_dsthConvertT hs therm (not_lt.mp h))
  | convertTWithPullup therm pullup => exact hunit (ensures_withPullup hs therm _ pullup)
  | readScratchpad therm => exact hunit (ensures_dsthReadScratchpad hs therm)
  | writeScratchpad therm th tl cfgReg =>
    exact hunit (ensures_dsthWriteScratchpad hs therm th tl cfgReg)
  | copyScratchpad therm => exact hunit (ensures_execCmd hs therm (by decide))
  | copyScratchpadWithPullup therm pullup => exact hunit (ensures_withPullup hs therm _ pullup)
  | recallEeprom therm status =>
    refine hunit (ensures_execCmd hs therm ?_)
    cases status <;> decide
  | all master op =>
    refine hunit ?_
    rw [ThermM.dsthAll]
    split_ifs
    · exact ensures_exit hs _
    · exact ensures_execCmdAll hs master (op.length_cmd_le.trans (by decide)) _ _
  | getRes therm => exact hunit (ensures_dsthGetRes hs therm)
  | setRes therm res =>
    rw [prog, ThermM.dsthSetRes]
    split_ifs
    · refine ensures_bind_bounds (ensures_dsthReadScratchpad hs therm) fun scpd s' hs' => ?_
      exact ensures_bind_bounds (ensures_dsthWriteScratchpad hs' therm _ _ _) fun _ _ h => h
    · exact ensures_exit hs _
    · exact hs
  | probe therm => exact hunit (ensures_dsthProbe hs therm)

/-- The call of `dsth_convert_t` is made whatever the length, and is not refused. -/
theorem calls_convertT (cfg : Config) (env : ℕ → ThermEnv) (hndl : W1Hndl) (therm : UInt64)
    (statLen : ℕ) :
    ∃ c, ((convertT therm statLen).run cfg env hndl).2.calls = [c] ∧ c.size = 32 ∧
      c.cmdLen + c.outLen = 1 + statLen ∧ c.writes ≠ [] := by
  have hcalls : ((convertT therm statLen).run cfg env hndl).2 =
      (ThermM.dsthConvertT cfg env therm statLen ⟨hndl, []⟩).2 := by
    rw [run, prog]
    change (Prog.bind _ _ _).2 = _
    rw [Prog.bind]
    rcases ThermM.dsthConvertT cfg env therm statLen ⟨hndl, []⟩ with ⟨_ | _ | _, s⟩ <;> rfl
  rw [hcalls, ThermM.dsthConvertT, ThermM.execCmd, ThermM.busCall_snd]
  exact ⟨_, rfl, rfl, rfl, List.cons_ne_nil _ _⟩

theorem not_allInBounds_convertT (hndl : W1Hndl) (therm : UInt64) {statLen : ℕ}
    (h : 31 < statLen) : ¬ AllInBounds ((convertT therm statLen).run cfg env hndl).2 := by
  obtain ⟨c, hcalls, hsize, hlen, hwrites⟩ := calls_convertT cfg env hndl therm statLen
  intro hall
  obtain ⟨hle, -⟩ | ⟨hnil, -⟩ := hall c (hcalls ▸ List.mem_singleton_self c)
  · omega
  · exact hwrites hnil

/-- **The bounds of `cmd_buf`.** The calls of an operation stay within their `cmd_buf` exactly when
no status is asked for that is longer than 31 bytes. -/
theorem allInBounds_iff (cfg : Config) (env : ℕ → ThermEnv) (hndl : W1Hndl) (op : ThermOp) :
    AllInBounds (op.run cfg env hndl).2 ↔ ¬ op.Overlong := by
  constructor
  · intro hall hlong
    cases op with
    | convertT therm statLen => exact not_allInBounds_convertT hndl therm hlong hall
    | _ => exact hlong
  · intro h
    have hinit : AllInBounds ⟨hndl, []⟩ := List.forall_mem_nil _
    have hprog : Prog.Ensures (op.prog cfg env) ⟨hndl, []⟩ (fun _ => AllInBounds) boundExits :=
      ensures_prog hinit h
    rw [Prog.Ensures, ← run] at hprog
    rcases hrun : op.run cfg env hndl with ⟨_ | _ | _, s⟩
    · rwa [hrun] at hprog
    · rwa [hrun] at hprog
    · rwa [hrun] at hprog

/-- A status of 32 bytes: the last of the ones that `exec_cmd` sets is behind `cmd_buf`. -/
theorem not_allInBounds_status32 :
    ¬ AllInBounds ((convertT 0x28 32).run ⟨false, .lp64⟩ (fun _ => Broadcast.staleEnv 0)
      w1Init).2 :=
  not_allInBounds_convertT w1Init 0x28 (by decide)

end ThermOp

end Librasp
