import Librasp.W1.Exec
import Librasp.W1.ListSearch

/-!
# The loops over w1 commands in place

The callbacks `search_slavs_cb` and `w1msg_exec_cb` walk through the w1 commands of a message
where it lies in the receive buffer, by `W1CMD_OK` and `W1CMD_NEXT`. `searchStep` and `execStep`
are one round of their loops on the cursor; the jump of `w1msg_exec_cb` back to
`check_next_exec_cmd` leaves the cursor where it is, so that the round after it meets the same w1
command again.

* `CmdCursor` is the cursor with what is left of the data. From it on there is a list of commands
  (`cmdsAt`), and a round takes the first of them (`cmdsAt_of_ok`).
* Both loops end: `W1CMD_NEXT` takes bytes off what is left, and the jump is to a later command of
  the message. The measure is in `execMeasure`.

**Main results.** The loops compute what `searchSlavsCb` and `w1msgExecCb` do on the list of the
commands (`run_searchStep`, `run_execStep`), by the refinement rule of `Loop`.
-/

namespace Librasp

/-! ### The cursor -/

/-- `p_w1cmd` and `dta_len`. -/
structure CmdCursor where
  pW1cmd : ℕ
  dtaLen : ℕ

/-- The cursor at the commands of the w1 message at an address. -/
def cmdCursorAt (m : Mem UInt8) (p : ℕ) : CmdCursor := ⟨p + sizeofW1NetlinkMsg, w1MsgLenAt m p⟩

section Cursor

variable (m : Mem UInt8) (c : CmdCursor)

/-- `W1CMD_OK`. -/
def w1cmdOk : Bool := decide (sizeofW1NetlinkCmd + w1CmdLenAt m c.pW1cmd ≤ c.dtaLen)

/-- `W1CMD_NEXT`. -/
def w1cmdNext : CmdCursor :=
  ⟨c.pW1cmd + (sizeofW1NetlinkCmd + w1CmdLenAt m c.pW1cmd),
    c.dtaLen - (sizeofW1NetlinkCmd + w1CmdLenAt m c.pW1cmd)⟩

/-- The commands from the cursor on. -/
def cmdsAt : List W1NetlinkCmd := W1NetlinkCmd.parser.chain (m.read c.pW1cmd c.dtaLen)

end Cursor

/-! ### The loops -/

/-- One round of the loop of `search_slavs_cb`; `ret` is the answer so far. -/
def searchStep (w : WordSize) (ret : W1msgMoreStat) (m : Mem UInt8) (s : CmdCursor × ListCbDta) :
    (CmdCursor × ListCbDta) ⊕ (W1msgMoreStat × ListCbDta) :=
  if w1cmdOk m s.1 then
    let w1cmd := w1CmdAt m s.1.pW1cmd
    if w1cmd.cmd ≠ s.2.srchCmd then .inr (.noMore, { s.2 with status := enomsg })
    else .inl (w1cmdNext m s.1, copyListElems w w1cmd.data s.2)
  else .inr (ret, s.2)

/-- A state of the loop of `w1msg_exec_cb`: whether it comes from `check_next_exec_cmd`, the
cursor, and the data of the callback. -/
structure ExecSt where
  atLabel : Bool
  cur : CmdCursor
  dta : W1msgExecCbDta

/-- One round of the loop of `w1msg_exec_cb` from its test on. -/
def execRound (cfg : Config) (m : Mem UInt8) (s : ExecSt) :
    ExecSt ⊕ (W1msgMoreStat × W1msgExecCbDta) :=
  if w1cmdOk m s.cur then
    let w1cmd := w1CmdAt m s.cur.pW1cmd
    if w1cmd.cmd ≠ convertCmdType cfg s.dta.cur.type then
      if !s.dta.cur.type.isRespRequired ∨ 0 < s.dta.cmdMsgs then
        -- `goto check_next_exec_cmd`
        .inl ⟨true, s.cur, s.dta.next⟩
      else .inr (.noMore, { s.dta with status := enomsg })
    else if s.dta.cur.type.isRespRequired ∧ 0 < w1cmd.len then
      if w1cmd.len ≠ s.dta.cur.len ∨ s.dta.cur.pData = 0 then
        .inr (.noMore, { s.dta.take w1cmd with status := enomsg })
      else .inl ⟨false, w1cmdNext m s.cur, (s.dta.take w1cmd).copy w1cmd⟩
    else .inl ⟨false, w1cmdNext m s.cur, s.dta.take w1cmd⟩
  else
    let r := respAfter s.dta.w1msg s.dta.w1msg.nCmds (s.dta.nPrcCmds + 1)
    .inr (r.1, { s.dta with indices := s.dta.indices ++ r.2 })

/-- One round of the loop of `w1msg_exec_cb`, from the label on if it was jumped to. -/
def execStep (cfg : Config) (m : Mem UInt8) (w1msg : W1NetlinkMsg) (isStatus : Bool)
    (s : ExecSt) : ExecSt ⊕ (W1msgMoreStat × W1msgExecCbDta) :=
  if s.atLabel then
    if s.dta.w1msg.nCmds ≤ s.dta.nPrcCmds then .inr (.noMore, s.dta)
    else if isStatus ∧ w1msg.status ≠ 0 then
      .inr (.noMore, { s.dta with status := w1msg.status })
    else
      execRound cfg m
        ⟨false, s.cur, { s.dta with indices := s.dta.indices ++ [s.dta.nPrcCmds] }⟩
  else execRound cfg m s

/-! ### The commands from the cursor on -/

section Cursor

variable {m : Mem UInt8} {c : CmdCursor}

theorem w1CmdAt_ofBytes_read {p l : ℕ} (h : sizeofW1NetlinkCmd + w1CmdLenAt m p ≤ l) :
    w1CmdAt (ofBytes (m.read p l)) 0 = w1CmdAt m p := by
  have hlen : w1CmdLenAt (ofBytes (m.read p l)) 0 = w1CmdLenAt m p := by
    rw [w1CmdLenAt, u16At_ofBytes_read (by rw [sizeofW1NetlinkCmd] at h; omega), w1CmdLenAt,
      Nat.zero_add]
  rw [sizeofW1NetlinkCmd] at h
  simp only [w1CmdAt, hlen, W1NetlinkCmd.mk.injEq, Nat.zero_add]
  exact ⟨Mem.ofList_read_apply 0 m (by omega), Mem.ofList_read_apply 0 m (by omega),
    Mem.read_ofList_read 0 m h⟩

/-- No command from the cursor on. -/
theorem cmdsAt_of_not_ok (h : ¬ w1cmdOk m c = true) : cmdsAt m c = [] := by
  rw [w1cmdOk, decide_eq_true_eq] at h
  refine RecordParser.chain_of_none (if_neg ?_)
  rw [Mem.length_read]
  by_cases hl : sizeofW1NetlinkCmd ≤ c.dtaLen
  · rw [w1CmdLenAt, u16At_ofBytes_read (by rw [sizeofW1NetlinkCmd] at hl; omega), Nat.zero_add]
    exact h
  · omega

/-- A command at the cursor. -/
theorem cmdsAt_of_ok (h : w1cmdOk m c = true) :
    cmdsAt m c = w1CmdAt m c.pW1cmd :: cmdsAt m (w1cmdNext m c) := by
  rw [w1cmdOk, decide_eq_true_eq] at h
  have hlen : w1CmdLenAt (ofBytes (m.read c.pW1cmd c.dtaLen)) 0 = w1CmdLenAt m c.pW1cmd := by
    rw [w1CmdLenAt, u16At_ofBytes_read (by rw [sizeofW1NetlinkCmd] at h; omega), w1CmdLenAt,
      Nat.zero_add]
  refine RecordParser.chain_of_some ?_
  simp only [W1NetlinkCmd.parser, Mem.length_read, hlen, w1CmdAt_ofBytes_read h, Mem.drop_read,
    if_pos h]
  rfl

/-- The next command is behind the current one. -/
theorem dtaLen_w1cmdNext_lt (h : w1cmdOk m c = true) : (w1cmdNext m c).dtaLen < c.dtaLen := by
  rw [w1cmdOk, decide_eq_true_eq] at h
  rw [w1cmdNext]
  dsimp only
  rw [sizeofW1NetlinkCmd] at h ⊢
  omega

/-- The commands end where they did. -/
theorem end_w1cmdNext (h : w1cmdOk m c = true) :
    (w1cmdNext m c).pW1cmd + (w1cmdNext m c).dtaLen = c.pW1cmd + c.dtaLen := by
  rw [w1cmdOk, decide_eq_true_eq] at h
  rw [w1cmdNext]
  dsimp only
  omega

end Cursor

/-! ### `search_slavs_cb` -/

section Search

variable (w : WordSize) (m : Mem UInt8)

/-- A round that stays in the loop takes a command. -/
theorem searchStep_inl {ret : W1msgMoreStat} {s s' : CmdCursor × ListCbDta}
    (h : searchStep w ret m s = .inl s') : w1cmdOk m s.1 = true ∧ s'.1 = w1cmdNext m s.1 := by
  rw [searchStep] at h
  split at h
  · rename_i hok
    dsimp only at h
    split at h
    · cases h
    · cases h
      exact ⟨hok, rfl⟩
  · cases h

/-- The loop of `search_slavs_cb` goes through the commands from the cursor on. What is left of
the data is the measure, so that the fuel is no more than its size. -/
theorem run_searchStep (ret : W1msgMoreStat) {c : CmdCursor} {s : ListCbDta} {fuel : ℕ}
    (hfuel : c.dtaLen < fuel) :
    Loop.run (searchStep w ret m) fuel (c, s) = some (searchFor w ret (cmdsAt m c) s) := by
  have hstep : ∀ (s : CmdCursor × ListCbDta) (t : List W1NetlinkCmd × ListCbDta),
      t = (cmdsAt m s.1, s.2) →
      (∃ r, searchStep w ret m s = .inr r ∧ r = searchFor w ret t.1 t.2) ∨
        ∃ s' t', searchStep w ret m s = .inl s' ∧ t' = (cmdsAt m s'.1, s'.2) ∧
          s'.1.dtaLen < s.1.dtaLen ∧ searchFor w ret t'.1 t'.2 = searchFor w ret t.1 t.2 := by
    rintro s t rfl
    rw [searchStep]
    by_cases hok : w1cmdOk m s.1 = true
    · rw [if_pos hok, cmdsAt_of_ok hok, searchFor]
      by_cases hcmd : (w1CmdAt m s.1.pW1cmd).cmd ≠ s.2.srchCmd
      · exact Or.inl ⟨_, if_pos hcmd, (if_pos hcmd).symm⟩
      · exact Or.inr ⟨_, _, if_neg hcmd, rfl, dtaLen_w1cmdNext_lt hok, (if_neg hcmd).symm⟩
    · rw [if_neg hok, cmdsAt_of_not_ok hok]
      exact Or.inl ⟨_, rfl, rfl⟩
  obtain ⟨r, hr, rfl⟩ := Loop.run_refines (fun s : CmdCursor × ListCbDta => s.1.dtaLen) hstep
    (show _ = (cmdsAt m (c, s).1, (c, s).2) from rfl) hfuel
  exact hr

/-- `search_slavs_cb` is its loop on the message where it lies. -/
theorem searchSlavsCb_eq_run (s : ListCbDta) (p : ℕ) (isStatus : Bool) {fuel : ℕ}
    (hfuel : w1MsgLenAt m p < fuel) :
    some (searchSlavsCb w s (w1MsgAt m p) isStatus) =
      if isStatus then
        if (w1MsgAt m p).status ≠ 0 then some (.noMore, { s with status := (w1MsgAt m p).status })
        else Loop.run (searchStep w .noMore m) fuel
          (cmdCursorAt m p, { s with status := (w1MsgAt m p).status })
      else Loop.run (searchStep w .moreOpt m) fuel (cmdCursorAt m p, s) := by
  rw [run_searchStep w m .noMore hfuel, run_searchStep w m .moreOpt hfuel, searchSlavsCb]
  split
  · split <;> rfl
  · rfl

end Search

/-! ### `w1msg_exec_cb` -/

section Exec

variable (cfg : Config) (m : Mem UInt8) (w1msg : W1NetlinkMsg) (isStatus : Bool)

/-- What `w1msg_exec_cb` makes of an exit of its loop. -/
def afterFor : ForExit × W1msgExecCbDta → W1msgMoreStat × W1msgExecCbDta
  | (.finish, s) => (.noMore, s)
  | (.checkNext w1cmds, s) =>
    checkNextExecCmd cfg w1msg isStatus (s.w1msg.nCmds - s.nPrcCmds) w1cmds s
  | (.done, s) =>
    ((respAfter s.w1msg s.w1msg.nCmds (s.nPrcCmds + 1)).1,
      { s with indices := s.indices ++ (respAfter s.w1msg s.w1msg.nCmds (s.nPrcCmds + 1)).2 })

/-- What is to come of a state of the loop, on the list of the commands. -/
def execRefOut (t : Bool × List W1NetlinkCmd × W1msgExecCbDta) :
    W1msgMoreStat × W1msgExecCbDta :=
  if t.1 then
    checkNextExecCmd cfg w1msg isStatus (t.2.2.w1msg.nCmds - t.2.2.nPrcCmds) t.2.1 t.2.2
  else afterFor cfg w1msg isStatus (execFor cfg t.2.1 t.2.2)

/-- In the loop there is a command left to match. -/
def ExecRel (s : ExecSt) (t : Bool × List W1NetlinkCmd × W1msgExecCbDta) : Prop :=
  t = (s.atLabel, cmdsAt m s.cur, s.dta) ∧ (s.atLabel = false → s.dta.nPrcCmds < s.dta.w1msg.nCmds)

/-- The bytes and the commands of the message left. -/
def execMeasure (s : ExecSt) : ℕ := s.cur.dtaLen + (s.dta.w1msg.nCmds - s.dta.nPrcCmds)

variable {cfg m w1msg isStatus}

/-- One round of the loop from its test on: it is left with what the list says, or goes on with
the rest of the list, or with the same list at a later command of the message. -/
theorem execRound_refines {s : ExecSt} (hlt : s.dta.nPrcCmds < s.dta.w1msg.nCmds)
    (w1msg : W1NetlinkMsg) (isStatus : Bool) :
    (∃ r, execRound cfg m s = .inr r ∧
        r = afterFor cfg w1msg isStatus (execFor cfg (cmdsAt m s.cur) s.dta)) ∨
      ∃ s' t', execRound cfg m s = .inl s' ∧ ExecRel m s' t' ∧ execMeasure s' < execMeasure s ∧
        execRefOut cfg w1msg isStatus t' =
          afterFor cfg w1msg isStatus (execFor cfg (cmdsAt m s.cur) s.dta) := by
  rw [execRound]
  by_cases hok : w1cmdOk m s.cur = true
  swap
  · rw [if_neg hok, cmdsAt_of_not_ok hok]
    exact Or.inl ⟨_, rfl, rfl⟩
  have hbytes := dtaLen_w1cmdNext_lt hok
  rw [if_pos hok, cmdsAt_of_ok hok, execFor]
  dsimp only
  by_cases hcmd : (w1CmdAt m s.cur.pW1cmd).cmd ≠ convertCmdType cfg s.dta.cur.type
  · rw [if_pos hcmd, if_pos hcmd]
    by_cases hnext : (!s.dta.cur.type.isRespRequired) = true ∨ 0 < s.dta.cmdMsgs
    · -- the cursor stays, and the next command of the message is matched
      rw [if_pos hnext, if_pos hnext]
      refine Or.inr ⟨_, _, rfl, ⟨rfl, fun h => Bool.noConfusion h⟩, ?_, ?_⟩
      · show s.cur.dtaLen + (s.dta.w1msg.nCmds - (s.dta.nPrcCmds + 1)) <
          s.cur.dtaLen + (s.dta.w1msg.nCmds - s.dta.nPrcCmds)
        omega
      · rw [execRefOut, if_pos rfl, cmdsAt_of_ok hok]
        rfl
    · rw [if_neg hnext, if_neg hnext]
      exact Or.inl ⟨_, rfl, rfl⟩
  rw [if_neg hcmd, if_neg hcmd]
  have hmove : ∀ dta : W1msgExecCbDta, dta.w1msg = s.dta.w1msg → dta.nPrcCmds = s.dta.nPrcCmds →
      ExecRel m ⟨false, w1cmdNext m s.cur, dta⟩ (false, cmdsAt m (w1cmdNext m s.cur), dta) ∧
        execMeasure ⟨false, w1cmdNext m s.cur, dta⟩ < execMeasure s := by
    intro dta hmsg hprc
    refine ⟨⟨rfl, fun _ => ?_⟩, ?_⟩
    · rw [hmsg, hprc]
      exact hlt
    · rw [execMeasure, execMeasure, hmsg, hprc]
      exact Nat.add_lt_add_right hbytes _
  by_cases hresp : s.dta.cur.type.isRespRequired = true ∧ 0 < (w1CmdAt m s.cur.pW1cmd).len
  · rw [if_pos hresp, if_pos hresp]
    by_cases hbad : (w1CmdAt m s.cur.pW1cmd).len ≠ s.dta.cur.len ∨ s.dta.cur.pData = 0
    · rw [if_pos hbad, if_pos hbad]
      exact Or.inl ⟨_, rfl, rfl⟩
    · rw [if_neg hbad, if_neg hbad]
      obtain ⟨hrel, hmeas⟩ := hmove ((s.dta.take _).copy _) rfl rfl
      exact Or.inr ⟨_, _, rfl, hrel, hmeas, rfl⟩
  · rw [if_neg hresp, if_neg hresp]
    obtain ⟨hrel, hmeas⟩ := hmove (s.dta.take _) rfl rfl
    exact Or.inr ⟨_, _, rfl, hrel, hmeas, rfl⟩

/-- A round that stays in the loop takes a command, or moves on to the next command of the
message. -/
theorem execRound_inl {s s' : ExecSt} (h : execRound cfg m s = .inl s') :
    w1cmdOk m s.cur = true ∧ s'.cur = w1cmdNext m s.cur ∨
      s'.cur = s.cur ∧ s.dta.nPrcCmds < s'.dta.nPrcCmds := by
  rw [execRound] at h
  split at h
  · rename_i hok
    dsimp only at h
    split at h
    · split at h
      · cases h
        exact Or.inr ⟨rfl, Nat.lt_succ_self _⟩
      · cases h
    · split at h
      · split at h
        · cases h
        · cases h
          exact Or.inl ⟨hok, rfl⟩
      · cases h
        exact Or.inl ⟨hok, rfl⟩
  · cases h

theorem execStep_inl {s s' : ExecSt} (h : execStep cfg m w1msg isStatus s = .inl s') :
    w1cmdOk m s.cur = true ∧ s'.cur = w1cmdNext m s.cur ∨
      s'.cur = s.cur ∧ s.dta.nPrcCmds < s'.dta.nPrcCmds := by
  rw [execStep] at h
  split at h
  · split at h
    · cases h
    · split at h
      · cases h
      · have hround := execRound_inl h
        exact hround
  · exact execRound_inl h

/-- A jump to the label is to the next command. -/
theorem execFor_checkNext {w1cmds rest : List W1NetlinkCmd} {s s' : W1msgExecCbDta}
    (h : execFor cfg w1cmds s = (.checkNext rest, s')) :
    s'.w1msg = s.w1msg ∧ s'.nPrcCmds = s.nPrcCmds + 1 := by
  induction w1cmds generalizing s with
  | nil => cases h
  | cons w1cmd w1cmds ih =>
    rw [execFor] at h
    split at h
    · split at h
      · cases h
        exact ⟨rfl, rfl⟩
      · cases h
    · split at h
      · split at h
        · cases h
        · have hrest := ih h
          exact hrest
      · have hrest := ih h
        exact hrest

/-- From the label on the loop does what `check_next_exec_cmd` does on the list: a jump to the
label finds the same w1 commands at a later command of the message. -/
theorem checkNextExecCmd_eq (w1cmds : List W1NetlinkCmd) {s : W1msgExecCbDta}
    (hlt : s.nPrcCmds < s.w1msg.nCmds) (hst : ¬ (isStatus = true ∧ w1msg.status ≠ 0)) :
    checkNextExecCmd cfg w1msg isStatus (s.w1msg.nCmds - s.nPrcCmds) w1cmds s =
      afterFor cfg w1msg isStatus
        (execFor cfg w1cmds { s with indices := s.indices ++ [s.nPrcCmds] }) := by
  obtain ⟨n, hn⟩ : ∃ n, s.w1msg.nCmds - s.nPrcCmds = n + 1 :=
    ⟨s.w1msg.nCmds - s.nPrcCmds - 1, by omega⟩
  rw [hn, checkNextExecCmd, if_neg (Nat.not_le.mpr hlt), if_neg hst]
  rcases hfor : execFor cfg w1cmds { s with indices := s.indices ++ [s.nPrcCmds] } with
    ⟨_ | rest | _, s'⟩
  · rfl
  · obtain ⟨hmsg, hprc⟩ := execFor_checkNext hfor
    have hn' : s'.w1msg.nCmds - s'.nPrcCmds = n := by
      rw [hmsg, hprc]
      dsimp only
      omega
    rw [afterFor, hn']
  · rfl

/-- One round of the loop. A round from the label tests whether there is a command of the message
left, and one from the test of the loop whether there is a w1 command; both come to what the
list says. -/
theorem execStep_refines (s : ExecSt) (t : Bool × List W1NetlinkCmd × W1msgExecCbDta)
    (h : ExecRel m s t) :
    (∃ r, execStep cfg m w1msg isStatus s = .inr r ∧ r = execRefOut cfg w1msg isStatus t) ∨
      ∃ s' t', execStep cfg m w1msg isStatus s = .inl s' ∧ ExecRel m s' t' ∧
        execMeasure s' < execMeasure s ∧
        execRefOut cfg w1msg isStatus t' = execRefOut cfg w1msg isStatus t := by
  obtain ⟨rfl, hin⟩ := h
  rw [execStep, execRefOut]
  rcases hl : s.atLabel with _ | _
  · exact execRound_refines (hin hl) w1msg isStatus
  dsimp only
  rw [if_pos rfl, if_pos rfl]
  by_cases hprc : s.dta.w1msg.nCmds ≤ s.dta.nPrcCmds
  · rw [if_pos hprc, Nat.sub_eq_zero_of_le hprc]
    exact Or.inl ⟨_, rfl, rfl⟩
  rw [if_neg hprc]
  by_cases hst : isStatus = true ∧ w1msg.status ≠ 0
  · rw [if_pos hst]
    refine Or.inl ⟨_, rfl, ?_⟩
    obtain ⟨n, hn⟩ : ∃ n, s.dta.w1msg.nCmds - s.dta.nPrcCmds = n + 1 :=
      ⟨s.dta.w1msg.nCmds - s.dta.nPrcCmds - 1, by omega⟩
    rw [hn, checkNextExecCmd, if_neg hprc, if_pos hst]
  · rw [if_neg hst, checkNextExecCmd_eq _ (Nat.lt_of_not_le hprc) hst]
    exact execRound_refines
      (s := ⟨false, s.cur, { s.dta with indices := s.dta.indices ++ [s.dta.nPrcCmds] }⟩)
      (Nat.lt_of_not_le hprc) w1msg isStatus

/-- The loop of `w1msg_exec_cb` from the label on goes through the commands from the cursor on. -/
theorem run_execStep {c : CmdCursor} {s : W1msgExecCbDta} {fuel : ℕ}
    (hfuel : c.dtaLen + (s.w1msg.nCmds - s.nPrcCmds) < fuel) :
    Loop.run (execStep cfg m w1msg isStatus) fuel ⟨true, c, s⟩ =
      some (checkNextExecCmd cfg w1msg isStatus (s.w1msg.nCmds - s.nPrcCmds) (cmdsAt m c) s) := by
  have hR : ExecRel m ⟨true, c, s⟩ (true, cmdsAt m c, s) := ⟨rfl, nofun⟩
  obtain ⟨r, hr, rfl⟩ := Loop.run_refines execMeasure execStep_refines hR hfuel
  exact hr

/-- `w1msg_exec_cb` is its loop on the message where it lies. -/
theorem w1msgExecCb_eq_run (s : W1msgExecCbDta) (p : ℕ) (isStatus : Bool) {fuel : ℕ}
    (hfuel : w1MsgLenAt m p + (s.w1msg.nCmds - s.nPrcCmds) < fuel) :
    some (w1msgExecCb cfg s (w1MsgAt m p) isStatus) =
      Loop.run (execStep cfg m (w1MsgAt m p) isStatus) fuel ⟨true, cmdCursorAt m p,
        { s with handed := s.handed ++ [(w1MsgAt m p, isStatus)] }⟩ :=
  (@run_execStep cfg m (w1MsgAt m p) isStatus (cmdCursorAt m p)
    { s with handed := s.handed ++ [(w1MsgAt m p, isStatus)] } fuel hfuel).symm

end Exec

end Librasp
