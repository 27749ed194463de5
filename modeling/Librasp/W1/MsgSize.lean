import Librasp.W1.Exec

/-!
# `w1_msg_exec`: the size check guards `msg_buf`

`w1_msg_exec` compares the size of the message with the size of `msg_buf` before it writes the
first byte there. `msgBufWrites` is what it writes, in order (`fillMsgBuf_eq_writeAll`), and
`SizeChecked` what the check is for: nothing is written, and nothing sent, of a message that does
not fit.

The size is summed up in `size_t` arithmetic, which computes it modulo the size of the address
space (`msgLen_eq_mod`). The check is right for a message exactly when the sum does not wrap
around to a size that fits (`sizeChecked_iff`).

* The journal has every write of the two passes, also those that would be behind the buffer. That
  a write stays within the room of its command is one lemma for each kind of command
  (`cmdWrites_inside`).
* `SizeWraps` is the condition. A message that is placed in memory with its buffers cannot meet
  it, but the builder functions do not ask for that.

**Main result.** `sizeChecked_iff`, for every message of the builder functions;
`not_sizeChecked_oneTouch` is one whose size wraps.
-/

namespace Librasp

/-! ### The writes -/

section Writes

variable (cfg : Config) (mem : Mem UInt8)

/-- The writes of the w1 message header, `memset` included. -/
def hdrWrites (m : W1Msg) : List (ℕ × List UInt8) :=
  [(0, List.replicate (msgLen cfg m) 0), (2, leBytes 2 (cmdsLen cfg m))] ++
    match m.type with
    | .master => [(0, [w1MasterCmd]), (4, leBytes 4 m.mst.toNat)]
    | .slave => [(0, [w1SlaveCmd]), (4, leBytes 8 m.slv.toNat)]

/-- The writes of the data behind a command header, and of the length field once more for a write
with a pull-up. -/
def cmdDataWrites (p : ℕ) (c : W1Cmd) (buf : Mem UInt8) : List (ℕ × List UInt8) :=
  if cfg.writePullup ∧ c.type = .writePullup then
    let ws := (p + 4, leBytes 2 c.pullup.toNat) ::
      if 0 < c.len then [(p + 6, mem.read c.pData c.len)] else []
    ws ++ [(p + 2, leBytes 2 (w1CmdLenAt (buf.writeAll ws) p + 2))]
  else if (c.type = .write ∨ c.type = .touch) ∧ 0 < c.len then [(p + 4, mem.read c.pData c.len)]
  else []

/-- The writes of one round of the write pass. -/
def cmdWrites (s : Mem UInt8 × ℕ) (c : W1Cmd) : List (ℕ × List UInt8) :=
  [(s.2, [convertCmdType cfg c.type]), (s.2 + 2, leBytes 2 c.len)] ++
    cmdDataWrites cfg mem s.2 c (encodeHdr cfg s.2 c s.1)

/-- The writes of the write pass over a list of commands. -/
def cmdsWrites : List W1Cmd → Mem UInt8 × ℕ → List (ℕ × List UInt8)
  | [], _ => []
  | c :: cmds, s => cmdWrites cfg mem s c ++ cmdsWrites cmds (encodeCmd cfg mem s c)

/-- What `w1_msg_exec` writes into `msg_buf`. -/
def msgBufWrites (m : W1Msg) (msgBuf : Mem UInt8) : List (ℕ × List UInt8) :=
  if m.nCmds ≤ 0 then []
  else if sizeofMsgBuf < msgLen cfg m then []
  else hdrWrites cfg m ++
    cmdsWrites cfg mem m.cmdList (fillW1msgHdr cfg m msgBuf, sizeofW1NetlinkMsg)

variable {cfg mem}

theorem fillW1msgHdr_eq_writeAll (m : W1Msg) (buf : Mem UInt8) :
    fillW1msgHdr cfg m buf = buf.writeAll (hdrWrites cfg m) := by
  rw [fillW1msgHdr, hdrWrites]
  cases m.type <;> rfl

theorem encodeCmd_eq_writeAll (s : Mem UInt8 × ℕ) (c : W1Cmd) :
    (encodeCmd cfg mem s c).1 = s.1.writeAll (cmdWrites cfg mem s c) := by
  have hhdr : encodeHdr cfg s.2 c s.1 =
      s.1.writeAll [(s.2, [convertCmdType cfg c.type]), (s.2 + 2, leBytes 2 c.len)] := rfl
  rw [cmdWrites, Mem.writeAll_append, ← hhdr, encodeCmd, encodeData, cmdDataWrites]
  dsimp only
  split_ifs <;> rfl

/-- `fillMsgBuf` is the journal of these writes. -/
theorem fillMsgBuf_eq_writeAll (m : W1Msg) (buf : Mem UInt8) :
    fillMsgBuf cfg mem m buf =
      buf.writeAll (hdrWrites cfg m ++
        cmdsWrites cfg mem m.cmdList (fillW1msgHdr cfg m buf, sizeofW1NetlinkMsg)) := by
  have hcmds : ∀ (cmds : List W1Cmd) (s : Mem UInt8 × ℕ),
      (cmds.foldl (encodeCmd cfg mem) s).1 = s.1.writeAll (cmdsWrites cfg mem cmds s) := by
    intro cmds
    induction cmds with
    | nil => exact fun _ => rfl
    | cons c cmds ih =>
      intro s
      rw [List.foldl_cons, ih, cmdsWrites, Mem.writeAll_append, encodeCmd_eq_writeAll]
  rw [fillMsgBuf, hcmds, Mem.writeAll_append, ← fillW1msgHdr_eq_writeAll]

/-- The writes of a round stay within the room of the command. There are two or three of them, of
the header and of the data. -/
theorem cmdWrites_inside {s : Mem UInt8 × ℕ} {c : W1Cmd} :
    ∀ w ∈ cmdWrites cfg mem s c, w.1 + w.2.length ≤ s.2 + c.size := by
  have hsize : 4 + c.len ≤ c.size := by
    rw [W1Cmd.size]
    omega
  rw [cmdWrites, List.forall_mem_append]
  constructor
  · simp only [List.mem_cons, List.not_mem_nil, or_false, forall_eq_or_imp, forall_eq,
      List.length_singleton, length_leBytes]
    omega
  rw [cmdDataWrites]
  by_cases hpull : cfg.writePullup ∧ c.type = .writePullup
  · have hsize6 : c.size = 4 + c.len + 2 := by rw [W1Cmd.size, if_pos hpull.2]
    rw [if_pos hpull]
    dsimp only
    rw [List.forall_mem_append, List.forall_mem_cons, List.forall_mem_singleton, length_leBytes,
      length_leBytes]
    refine ⟨⟨by omega, ?_⟩, by omega⟩
    split_ifs
    · rw [List.forall_mem_singleton, Mem.length_read]
      omega
    · exact List.forall_mem_nil _
  · rw [if_neg hpull]
    split_ifs
    · rw [List.forall_mem_singleton, Mem.length_read]
      omega
    · exact List.forall_mem_nil _

/-- The writes of the write pass stay within the room of the commands. The induction is on the
list; the cursor is where the commands before it end. -/
theorem cmdsWrites_inside {cmds : List W1Cmd} {s : Mem UInt8 × ℕ}
    (hpullup : ∀ c ∈ cmds, c.type = .writePullup → cfg.writePullup = true)
    (hsize : (cmds.map W1Cmd.size).sum < 65536)
    (hzero : ∀ x, s.2 ≤ x → x < s.2 + (cmds.map W1Cmd.size).sum → s.1 x = 0) :
    ∀ w ∈ cmdsWrites cfg mem cmds s, w.1 + w.2.length ≤ s.2 + (cmds.map W1Cmd.size).sum := by
  induction cmds generalizing s with
  | nil => exact List.forall_mem_nil _
  | cons c cmds ih =>
    rw [List.map_cons, List.sum_cons] at hsize hzero ⊢
    have hspec := encodeCmd_spec mem (s := s) (hpullup c List.mem_cons_self) (by omega)
      fun x hx hlt => hzero x hx (by omega)
    have hcursor := hspec.cursor
    rw [W1Cmd.length_wireBytes] at hcursor
    rw [cmdsWrites, List.forall_mem_append]
    refine ⟨fun w hw => (cmdWrites_inside w hw).trans (by omega), fun w hw => ?_⟩
    refine (ih (fun d hd => hpullup d (List.mem_cons_of_mem _ hd)) (by omega)
      (fun x hx hlt => ?_) w hw).trans (by omega)
    -- behind the command just written the room is still cleared
    rw [hspec.frame x (by rw [W1Cmd.length_wireBytes]; omega)]
    exact hzero x (by omega) (by omega)

/-- A message that fits is written within its size: the header, cleared with all of the room
behind it, and then the commands. -/
theorem msgBufWrites_inside {m : W1Msg} (hm : m.WellFormed cfg)
    (hsize : sizeofW1NetlinkMsg + m.cmdsSize ≤ sizeofMsgBuf) (msgBuf : Mem UInt8) :
    ∀ w ∈ msgBufWrites cfg mem m msgBuf,
      w.1 + w.2.length ≤ sizeofW1NetlinkMsg + m.cmdsSize := by
  have h12 : sizeofW1NetlinkMsg = 12 := rfl
  have hbuf : sizeofMsgBuf = 4076 := rfl
  rw [msgBufWrites]
  split_ifs
  · exact List.forall_mem_nil _
  · exact List.forall_mem_nil _
  rw [List.forall_mem_append]
  constructor
  · have hlen := msgLen_eq_of_le hm hsize
    rw [hdrWrites, List.forall_mem_append]
    constructor
    · simp only [List.mem_cons, List.not_mem_nil, or_false, forall_eq_or_imp, forall_eq,
        List.length_replicate, length_leBytes]
      omega
    · cases m.type <;>
      · simp only [List.mem_cons, List.not_mem_nil, or_false, forall_eq_or_imp, forall_eq,
          List.length_singleton, length_leBytes]
        omega
  · refine cmdsWrites_inside (fun c hc => (hm.cmd c hc).writePullup) ?_
      fun x hx hlt => fillW1msgHdr_zero hm hsize msgBuf hx hlt
    rw [← W1Msg.cmdsSize]
    omega

end Writes

/-! ### The check -/

/-- The size check of `send_recv_w1msg`, of a w1 message of some length. -/
def FitsSendBuf (w1msgLen : ℕ) : Prop :=
  nlmsgAlign (nlmsgLength (sizeofCnMsg + w1msgLen)) ≤ maxW1NetlinkMsgSz

/-- The two limits agree. -/
theorem fitsSendBuf_iff (w1msgLen : ℕ) : FitsSendBuf w1msgLen ↔ w1msgLen ≤ sizeofMsgBuf := by
  have hbuf : sizeofMsgBuf = 4076 := rfl
  simp only [FitsSendBuf, nlmsgAlign, nlmsgLength, sizeofCnMsg, nlmsgHdrlen, maxW1NetlinkMsgSz,
    hbuf]
  omega

/-- What the size check is for: `msg_buf` is written only when the message fits, and only within
it; a message that does not fit is refused and nothing is sent; and what is written passes the
size check of `send_recv_w1msg` as well. -/
structure SizeChecked (cfg : Config) (m : W1Msg) (mem msgBuf : Mem UInt8)
    (run : SendRecv W1msgExecCbDta) : Prop where
  fits : msgBufWrites cfg mem m msgBuf ≠ [] → sizeofW1NetlinkMsg + m.cmdsSize ≤ sizeofMsgBuf
  inside : ∀ w ∈ msgBufWrites cfg mem m msgBuf, w.1 + w.2.length ≤ sizeofMsgBuf
  refused : sizeofMsgBuf < sizeofW1NetlinkMsg + m.cmdsSize →
    run.sent = none ∧ run.ret = some (.msgSize, .init m)
  agree : msgBufWrites cfg mem m msgBuf ≠ [] →
    FitsSendBuf (sizeofW1NetlinkMsg + w1MsgLenAt (fillMsgBuf cfg mem m msgBuf) 0)

/-- The size of a message wraps around to one that fits. -/
def SizeWraps (cfg : Config) (m : W1Msg) : Prop :=
  2 ^ cfg.word.bits ≤ sizeofW1NetlinkMsg + m.cmdsSize ∧
    (sizeofW1NetlinkMsg + m.cmdsSize) % 2 ^ cfg.word.bits ≤ sizeofMsgBuf

section Check

variable {cfg : Config} {m : W1Msg} {mem msgBuf : Mem UInt8}

/-- A message with commands is written when its computed size fits. -/
theorem msgBufWrites_ne_nil (hpos : 0 < m.nCmds) (hlen : msgLen cfg m ≤ sizeofMsgBuf) :
    msgBufWrites cfg mem m msgBuf ≠ [] := by
  rw [msgBufWrites, if_neg (by omega), if_neg (by omega), hdrWrites]
  exact List.cons_ne_nil _ _

/-- A message with no commands has no size. -/
theorem nCmds_pos_of_size (h : sizeofMsgBuf < sizeofW1NetlinkMsg + m.cmdsSize) : 0 < m.nCmds := by
  by_contra hn
  have hnil : m.cmdList = [] := List.eq_nil_of_length_eq_zero (by rw [m.length_cmdList]; omega)
  rw [W1Msg.cmdsSize, hnil] at h
  exact absurd h (by decide)

/-- The length field that `send_recv_w1msg` reads back. -/
theorem w1MsgLenAt_fillMsgBuf (hm : m.WellFormed cfg)
    (hsize : sizeofW1NetlinkMsg + m.cmdsSize ≤ sizeofMsgBuf) :
    w1MsgLenAt (fillMsgBuf cfg mem m msgBuf) 0 = m.cmdsSize := by
  have hbuf : sizeofMsgBuf = 4076 := rfl
  have h12 : sizeofW1NetlinkMsg = 12 := rfl
  have hread := fillMsgBuf_read hm mem msgBuf hsize
  have hlen : (fillMsgBuf cfg mem m msgBuf).read 2 2 = leBytes 2 m.cmdsSize := by
    have hdrop := congrArg (fun bs => (bs.drop 2).take 2) hread
    simp only [Mem.drop_read, Mem.take_read _ (show 2 ≤ 12 + m.cmdsSize - 2 by omega), h12,
      W1Msg.wireHdr] at hdrop
    rw [hdrop]
    simp
  exact toNat_u16At_of_read hlen (by omega)

/-- A message whose size wraps is written all the same. -/
theorem not_sizeChecked_of_sizeWraps (hm : m.WellFormed cfg) (h : SizeWraps cfg m)
    (run : SendRecv W1msgExecCbDta) : ¬ SizeChecked cfg m mem msgBuf run := by
  obtain ⟨hge, hle⟩ := h
  have hbits := cfg.word.two_pow_bits_ge
  have hbuf : sizeofMsgBuf = 4076 := rfl
  rw [← msgLen_eq_mod hm] at hle
  have hpos : 0 < m.nCmds := nCmds_pos_of_size (by omega)
  intro hchecked
  have hfits := hchecked.fits (msgBufWrites_ne_nil hpos hle)
  omega

/-- **The size check.** The check guards `msg_buf` exactly when the size of the message does not
wrap around to one that fits. -/
theorem sizeChecked_iff (hm : Built cfg m) (mem msgBuf : Mem UInt8) (fuel : ℕ) (hndl : W1Hndl)
    (env : IoEnv) :
    SizeChecked cfg m mem msgBuf (w1MsgExec cfg fuel hndl m mem msgBuf env) ↔
      ¬ SizeWraps cfg m := by
  have hwf := hm.wellFormed
  refine ⟨fun h hwraps => not_sizeChecked_of_sizeWraps hwf hwraps _ h, fun hwraps => ?_⟩
  have hbits := cfg.word.two_pow_bits_ge
  have hbuf : sizeofMsgBuf = 4076 := rfl
  -- the computed size is right, or the true one is too large as well
  have hlen : msgLen cfg m = sizeofW1NetlinkMsg + m.cmdsSize ∨
      sizeofMsgBuf < msgLen cfg m ∧ sizeofMsgBuf < sizeofW1NetlinkMsg + m.cmdsSize := by
    rw [msgLen_eq_mod hwf]
    by_cases hlt : sizeofW1NetlinkMsg + m.cmdsSize < 2 ^ cfg.word.bits
    · exact Or.inl (Nat.mod_eq_of_lt hlt)
    · have hmod := fun hle => hwraps ⟨not_lt.mp hlt, hle⟩
      exact Or.inr ⟨not_le.mp hmod, by omega⟩
  have hfits : msgBufWrites cfg mem m msgBuf ≠ [] →
      sizeofW1NetlinkMsg + m.cmdsSize ≤ sizeofMsgBuf := by
    intro hne
    by_contra hnot
    refine hne ?_
    rw [msgBufWrites]
    split_ifs
    · rfl
    · rfl
    · omega
  refine ⟨hfits, fun w hw => ?_, fun hlt => ?_, fun hne => ?_⟩
  · have hsize := hfits (List.ne_nil_of_mem hw)
    exact (msgBufWrites_inside hwf hsize msgBuf w hw).trans hsize
  · have hpos : 0 < m.nCmds := nCmds_pos_of_size hlt
    have hrefused : sizeofMsgBuf < msgLen cfg m := by omega
    rw [w1MsgExec, if_neg (by omega), if_pos hrefused]
    exact ⟨rfl, rfl⟩
  · rw [w1MsgLenAt_fillMsgBuf hwf (hfits hne), fitsSendBuf_iff]
    exact hfits hne

end Check

/-! ### A size that wraps -/

/-- A message for a slave with one command. -/
def oneTouch (len : ℕ) : W1Msg := (addTouchW1Cmd (w1SlaveMsgInit 0x28 1) 16 len).2

theorem built_oneTouch (cfg : Config) (len : ℕ) : Built cfg (oneTouch len) :=
  .addTouch (.slaveInit 0x28 1) _ _

/-- A system on which nothing answers. -/
def silentEnv : IoEnv := ⟨fun _ => 0, fun _ => 0, true, [.pollTimeout]⟩

/-- With a command of four bytes less than the address space the computed size is 12 bytes: the
check passes, and the whole command is copied into `msg_buf`. -/
theorem not_sizeChecked_oneTouch :
    ¬ SizeChecked ⟨false, .ilp32⟩ (oneTouch (2 ^ 32 - 4)) (fun _ => 0) (fun _ => 0)
      (w1MsgExec ⟨false, .ilp32⟩ 2 w1Init (oneTouch (2 ^ 32 - 4)) (fun _ => 0) (fun _ => 0)
        silentEnv) :=
  not_sizeChecked_of_sizeWraps (built_oneTouch _ _).wellFormed ⟨by decide, by decide⟩ _

/-- The command of `dsth_read_scratchpad` is guarded. -/
theorem sizeChecked_oneTouch :
    SizeChecked ⟨false, .ilp32⟩ (oneTouch 10) (fun _ => 0) (fun _ => 0)
      (w1MsgExec ⟨false, .ilp32⟩ 2 w1Init (oneTouch 10) (fun _ => 0) (fun _ => 0) silentEnv) :=
  (sizeChecked_iff (built_oneTouch _ _) _ _ _ _ _).mpr fun h => absurd h.1 (by decide)

end Librasp
