import Librasp.W1.Encode
import Librasp.W1.Send

/-!
# `w1_msg_exec`: executing a w1 message

`w1msgExecCb` is the callback that takes in the replies to a message. Replies are not
numbered: `n_prc_cmds` is the command the next reply is matched against, and `cmd_msgs` counts
the replies taken for it. A reply of another code moves on to the next command, by a jump back
to `check_next_exec_cmd` in the middle of a chain of w1 commands.

The state carries, next to the fields of the source, a record of what has happened: the w1
messages handed to the callback, the indices at which `cmds[]` was read, the commands taken,
and the writes to the caller's memory. No branch depends on them.

`ExecRule` is the proof rule for the callback: an invariant of the commands still to be read
and the state, one field for each way through the loops.
-/

namespace Librasp

/-! ### The callback -/

/-- A w1 command taken as a reply: the command of the message it was matched with. -/
structure ExecStep where
  idx : ℕ
  w1cmd : W1NetlinkCmd
  deriving DecidableEq

/-- `w1msg_exec_cb_dta_t`, and what the callback has done. -/
structure W1msgExecCbDta where
  nPrcCmds : ℕ
  w1msg : W1Msg
  status : UInt8
  cmdMsgs : ℕ
  handed : List (W1NetlinkMsg × Bool)
  indices : List ℕ
  steps : List ExecStep
  writes : List (ℕ × List UInt8)

namespace W1msgExecCbDta

/-- The callback data at the start. -/
def init (m : W1Msg) : W1msgExecCbDta := ⟨0, m, 0, 0, [], [], [], []⟩

/-- `*p_w1cmd_exec`: the command replies are matched against. -/
def cur (s : W1msgExecCbDta) : W1Cmd := s.w1msg.cmds s.nPrcCmds

/-- Move on to the next command. -/
def next (s : W1msgExecCbDta) : W1msgExecCbDta :=
  { s with cmdMsgs := 0, nPrcCmds := s.nPrcCmds + 1 }

/-- Take a w1 command as a reply. `cmd_msgs` is an `unsigned int`. -/
def take (s : W1msgExecCbDta) (w1cmd : W1NetlinkCmd) : W1msgExecCbDta :=
  { s with cmdMsgs := (s.cmdMsgs + 1) % 2 ^ 32, steps := s.steps ++ [⟨s.nPrcCmds, w1cmd⟩] }

/-- Copy the data of a w1 command to the buffer of the current command. -/
def copy (s : W1msgExecCbDta) (w1cmd : W1NetlinkCmd) : W1msgExecCbDta :=
  { s with writes := s.writes ++ [(s.cur.pData, w1cmd.data)] }

end W1msgExecCbDta

/-- How the loop over the commands of a w1 message is left. -/
inductive ForExit
  /-- `goto finish`. -/
  | finish
  /-- `goto check_next_exec_cmd`, with the commands still to be read. -/
  | checkNext (w1cmds : List W1NetlinkCmd)
  /-- All commands are read. -/
  | done

section Callback

variable (cfg : Config)

/-- The loop over the w1 commands. -/
def execFor : List W1NetlinkCmd → W1msgExecCbDta → ForExit × W1msgExecCbDta
  | [], s => (.done, s)
  | w1cmd :: w1cmds, s =>
    if w1cmd.cmd ≠ convertCmdType cfg s.cur.type then
      if !s.cur.type.isRespRequired ∨ 0 < s.cmdMsgs then
        -- the same w1 command is checked against the next command of the message
        (.checkNext (w1cmd :: w1cmds), s.next)
      else (.finish, { s with status := enomsg })
    else if s.cur.type.isRespRequired ∧ 0 < w1cmd.len then
      if w1cmd.len ≠ s.cur.len ∨ s.cur.pData = 0 then
        (.finish, { s.take w1cmd with status := enomsg })
      else execFor w1cmds ((s.take w1cmd).copy w1cmd)
    else execFor w1cmds (s.take w1cmd)

/-- The final loop of the callback from index `i` on: whether a reply to a later command is
required, and the indices it reads. -/
def respAfter (m : W1Msg) : ℕ → ℕ → W1msgMoreStat × List ℕ
  | 0, _ => (.moreOpt, [])
  | fuel + 1, i =>
    if i < m.nCmds then
      if (m.cmds i).type.isRespRequired then (.moreReq, [i])
      else ((respAfter m fuel (i + 1)).1, i :: (respAfter m fuel (i + 1)).2)
    else (.moreOpt, [])

/-- `check_next_exec_cmd`. Every jump back to the label moves to a later command, so there are
at most as many of them as there are commands left. -/
def checkNextExecCmd (w1msg : W1NetlinkMsg) (isStatus : Bool) :
    ℕ → List W1NetlinkCmd → W1msgExecCbDta → W1msgMoreStat × W1msgExecCbDta
  | 0, _, s => (.noMore, s)
  | fuel + 1, w1cmds, s =>
    if s.w1msg.nCmds ≤ s.nPrcCmds then (.noMore, s)
    else if isStatus ∧ w1msg.status ≠ 0 then (.noMore, { s with status := w1msg.status })
    else
      match execFor cfg w1cmds { s with indices := s.indices ++ [s.nPrcCmds] } with
      | (.finish, s) => (.noMore, s)
      | (.checkNext w1cmds, s) => checkNextExecCmd w1msg isStatus fuel w1cmds s
      | (.done, s) =>
        let r := respAfter s.w1msg s.w1msg.nCmds (s.nPrcCmds + 1)
        (r.1, { s with indices := s.indices ++ r.2 })

/-- `w1msg_exec_cb`. -/
def w1msgExecCb : RecvW1msgCb W1msgExecCbDta := fun s w1msg isStatus =>
  checkNextExecCmd cfg w1msg isStatus (s.w1msg.nCmds - s.nPrcCmds)
    (W1NetlinkCmd.parser.chain w1msg.data) { s with handed := s.handed ++ [(w1msg, isStatus)] }

/-! ### The function -/

/-- `w1_msg_exec`: `mem` is the caller's memory, `msgBuf` what `msg_buf` holds. -/
def w1MsgExec (fuel : ℕ) (hndl : W1Hndl) (m : W1Msg) (mem msgBuf : Mem UInt8) (env : IoEnv) :
    SendRecv W1msgExecCbDta :=
  if m.nCmds ≤ 0 then ⟨hndl, none, some (.empty, .init m)⟩
  else if sizeofMsgBuf < msgLen cfg m then ⟨hndl, none, some (.msgSize, .init m)⟩
  else
    let r := sendRecvW1msg cfg.word fuel hndl (fillMsgBuf cfg mem m msgBuf) (w1msgExecCb cfg)
      (.init m) env
    { r with
      ret := r.ret.map fun r =>
        (if r.1 ≠ .success then r.1 else if r.2.status ≠ 0 then .protoErr else .success, r.2) }

end Callback

/-! ### The proof rule -/

/-- The final loop answers whether a later command requires a reply. It stops at the first that
does, and looks at no other. -/
theorem respAfter_fst (m : W1Msg) {fuel i : ℕ} (hfuel : m.nCmds - i ≤ fuel) :
    (respAfter m fuel i).1 = .moreReq ∧ (∃ j, i ≤ j ∧ j < m.nCmds ∧
        (m.cmds j).type.isRespRequired = true) ∨
      (respAfter m fuel i).1 = .moreOpt ∧ ∀ j, i ≤ j → j < m.nCmds →
        (m.cmds j).type.isRespRequired = false := by
  induction fuel generalizing i with
  | zero => exact .inr ⟨rfl, fun j hj hlt => by omega⟩
  | succ fuel ih =>
    rw [respAfter]
    by_cases hi : i < m.nCmds
    · rw [if_pos hi]
      by_cases hresp : (m.cmds i).type.isRespRequired = true
      · rw [if_pos hresp]
        exact .inl ⟨rfl, i, le_rfl, hi, hresp⟩
      · rw [if_neg hresp]
        rcases ih (i := i + 1) (by omega) with ⟨hreq, j, hj, hlt, hjresp⟩ | ⟨hopt, hnone⟩
        · exact .inl ⟨hreq, j, by omega, hlt, hjresp⟩
        · refine .inr ⟨hopt, fun j hj hlt => ?_⟩
          rcases Nat.eq_or_lt_of_le hj with rfl | hj
          · exact Bool.eq_false_iff.mpr hresp
          · exact hnone j hj hlt
    · rw [if_neg hi]
      exact .inr ⟨rfl, fun j hj hlt => by omega⟩

/-- The final loop reads `cmds[]` only where there are commands. -/
theorem respAfter_snd (m : W1Msg) (fuel i : ℕ) : ∀ j ∈ (respAfter m fuel i).2, j < m.nCmds := by
  induction fuel generalizing i with
  | zero => rintro j ⟨⟩
  | succ fuel ih =>
    rw [respAfter]
    split
    · next hi =>
      split
      · rintro j hj
        rwa [List.mem_singleton.mp hj]
      · rintro j hj
        rcases List.mem_cons.mp hj with rfl | hj
        · exact hi
        · exact ih _ j hj
    · rintro j ⟨⟩

/-- What one round of the callback's loops must keep: `Inv` is about the w1 commands still to
be read and the state, `Post` about the answer and the final state. -/
structure ExecRule (cfg : Config) (w1msg : W1NetlinkMsg) (isStatus : Bool)
    (Inv : List W1NetlinkCmd → W1msgExecCbDta → Prop)
    (Post : W1msgMoreStat → W1msgExecCbDta → Prop) : Prop where
  exhausted : ∀ {w1cmds s}, Inv w1cmds s → s.w1msg.nCmds ≤ s.nPrcCmds → Post .noMore s
  status : ∀ {w1cmds s}, Inv w1cmds s → s.nPrcCmds < s.w1msg.nCmds → isStatus = true →
    w1msg.status ≠ 0 → Post .noMore { s with status := w1msg.status }
  index : ∀ {w1cmds s}, Inv w1cmds s → s.nPrcCmds < s.w1msg.nCmds →
    ¬ (isStatus = true ∧ w1msg.status ≠ 0) →
    Inv w1cmds { s with indices := s.indices ++ [s.nPrcCmds] }
  next : ∀ {w1cmd w1cmds s}, Inv (w1cmd :: w1cmds) s → s.nPrcCmds < s.w1msg.nCmds →
    ¬ (isStatus = true ∧ w1msg.status ≠ 0) → w1cmd.cmd ≠ convertCmdType cfg s.cur.type →
    (s.cur.type.isRespRequired = false ∨ 0 < s.cmdMsgs) → Inv (w1cmd :: w1cmds) s.next
  unexpected : ∀ {w1cmd w1cmds s}, Inv (w1cmd :: w1cmds) s → s.nPrcCmds < s.w1msg.nCmds →
    w1cmd.cmd ≠ convertCmdType cfg s.cur.type → s.cur.type.isRespRequired = true →
    s.cmdMsgs = 0 → Post .noMore { s with status := enomsg }
  badLen : ∀ {w1cmd w1cmds s}, Inv (w1cmd :: w1cmds) s → s.nPrcCmds < s.w1msg.nCmds →
    w1cmd.cmd = convertCmdType cfg s.cur.type → s.cur.type.isRespRequired = true →
    0 < w1cmd.len → (w1cmd.len ≠ s.cur.len ∨ s.cur.pData = 0) →
    Post .noMore { s.take w1cmd with status := enomsg }
  copy : ∀ {w1cmd w1cmds s}, Inv (w1cmd :: w1cmds) s → s.nPrcCmds < s.w1msg.nCmds →
    w1cmd.cmd = convertCmdType cfg s.cur.type → s.cur.type.isRespRequired = true →
    0 < w1cmd.len → w1cmd.len = s.cur.len → s.cur.pData ≠ 0 →
    Inv w1cmds ((s.take w1cmd).copy w1cmd)
  take : ∀ {w1cmd w1cmds s}, Inv (w1cmd :: w1cmds) s → s.nPrcCmds < s.w1msg.nCmds →
    w1cmd.cmd = convertCmdType cfg s.cur.type →
    (s.cur.type.isRespRequired = false ∨ w1cmd.len = 0) → Inv w1cmds (s.take w1cmd)
  done : ∀ {s}, Inv [] s → s.nPrcCmds < s.w1msg.nCmds →
    ¬ (isStatus = true ∧ w1msg.status ≠ 0) →
    Post (respAfter s.w1msg s.w1msg.nCmds (s.nPrcCmds + 1)).1
      { s with indices := s.indices ++ (respAfter s.w1msg s.w1msg.nCmds (s.nPrcCmds + 1)).2 }

namespace ExecRule

variable {cfg : Config} {w1msg : W1NetlinkMsg} {isStatus : Bool}
  {Inv : List W1NetlinkCmd → W1msgExecCbDta → Prop}
  {Post : W1msgMoreStat → W1msgExecCbDta → Prop}

/-- The loop over the w1 commands. -/
theorem execFor (h : ExecRule cfg w1msg isStatus Inv Post) {w1cmds : List W1NetlinkCmd}
    {s : W1msgExecCbDta} (hs : Inv w1cmds s) (hlt : s.nPrcCmds < s.w1msg.nCmds)
    (hst : ¬ (isStatus = true ∧ w1msg.status ≠ 0)) :
    match Librasp.execFor cfg w1cmds s with
    | (.finish, s') => Post .noMore s'
    | (.checkNext rest, s') =>
      Inv rest s' ∧ s'.w1msg = s.w1msg ∧ s'.nPrcCmds = s.nPrcCmds + 1
    | (.done, s') => Inv [] s' ∧ s'.w1msg = s.w1msg ∧ s'.nPrcCmds = s.nPrcCmds := by
  induction w1cmds generalizing s with
  | nil => exact ⟨hs, rfl, rfl⟩
  | cons w1cmd w1cmds ih =>
    rw [Librasp.execFor]
    by_cases hcode : w1cmd.cmd = convertCmdType cfg s.cur.type
    · rw [if_neg (not_not.mpr hcode)]
      by_cases hdata : s.cur.type.isRespRequired = true ∧ 0 < w1cmd.len
      · rw [if_pos hdata]
        by_cases hbad : w1cmd.len ≠ s.cur.len ∨ s.cur.pData = 0
        · rw [if_pos hbad]
          exact h.badLen hs hlt hcode hdata.1 hdata.2 hbad
        · rw [if_neg hbad]
          push Not at hbad
          exact ih (h.copy hs hlt hcode hdata.1 hdata.2 hbad.1 hbad.2) hlt
      · rw [if_neg hdata]
        have hnone : s.cur.type.isRespRequired = false ∨ w1cmd.len = 0 := by
          rcases hresp : s.cur.type.isRespRequired with _ | _
          · exact .inl rfl
          · exact .inr (by simpa [hresp] using hdata)
        exact ih (h.take hs hlt hcode hnone) hlt
    · rw [if_pos hcode]
      by_cases hnext : (!s.cur.type.isRespRequired) = true ∨ 0 < s.cmdMsgs
      · rw [if_pos hnext]
        exact ⟨h.next hs hlt hst hcode (by simpa using hnext), rfl, rfl⟩
      · rw [if_neg hnext]
        push Not at hnext
        exact h.unexpected hs hlt hcode (by simpa using hnext.1) (by omega)

/-- The rule for `check_next_exec_cmd`. -/
theorem checkNextExecCmd (h : ExecRule cfg w1msg isStatus Inv Post) {fuel : ℕ}
    {w1cmds : List W1NetlinkCmd} {s : W1msgExecCbDta} (hs : Inv w1cmds s)
    (hfuel : s.w1msg.nCmds - s.nPrcCmds ≤ fuel) :
    Post (Librasp.checkNextExecCmd cfg w1msg isStatus fuel w1cmds s).1
      (Librasp.checkNextExecCmd cfg w1msg isStatus fuel w1cmds s).2 := by
  induction fuel generalizing w1cmds s with
  | zero =>
    have hle : s.w1msg.nCmds ≤ s.nPrcCmds := by omega
    exact h.exhausted hs hle
  | succ fuel ih =>
    rw [Librasp.checkNextExecCmd]
    by_cases hle : s.w1msg.nCmds ≤ s.nPrcCmds
    · rw [if_pos hle]
      exact h.exhausted hs hle
    rw [if_neg hle]
    have hlt : s.nPrcCmds < s.w1msg.nCmds := by omega
    by_cases hst : isStatus = true ∧ w1msg.status ≠ 0
    · rw [if_pos hst]
      exact h.status hs hlt hst.1 hst.2
    rw [if_neg hst]
    have hfor := h.execFor (h.index hs hlt hst) hlt hst
    rcases hres : Librasp.execFor cfg w1cmds { s with indices := s.indices ++ [s.nPrcCmds] }
      with ⟨_ | rest | _, s'⟩
    · rw [hres] at hfor
      exact hfor
    · -- one command further, so the fuel still covers the commands left
      rw [hres] at hfor
      obtain ⟨hinv, hmsg, hprc⟩ := hfor
      refine ih hinv ?_
      rw [hmsg, hprc]
      dsimp only
      omega
    · rw [hres] at hfor
      obtain ⟨hinv, hmsg, hprc⟩ := hfor
      have hlt' : s'.nPrcCmds < s'.w1msg.nCmds := by
        rw [hmsg, hprc]
        exact hlt
      exact h.done hinv hlt' hst

/-- **The rule for the callback.** -/
theorem w1msgExecCb (h : ExecRule cfg w1msg isStatus Inv Post) {s : W1msgExecCbDta}
    (hs : Inv (W1NetlinkCmd.parser.chain w1msg.data)
      { s with handed := s.handed ++ [(w1msg, isStatus)] }) :
    Post (Librasp.w1msgExecCb cfg s w1msg isStatus).1
      (Librasp.w1msgExecCb cfg s w1msg isStatus).2 :=
  h.checkNextExecCmd hs le_rfl

end ExecRule

/-- The rule for callbacks, for the execution of a message: what the callback keeps holds of the
data that is left behind, and success also means that no error was left in the status. -/
theorem w1MsgExec_invariant {cfg : Config} {fuel : ℕ} {hndl : W1Hndl} {m : W1Msg}
    {mem msgBuf : Mem UInt8} {env : IoEnv} {ret : LrErrc} {dta : W1msgExecCbDta}
    {I : W1msgMoreStat → W1msgExecCbDta → Prop}
    (hcb : ∀ ms s w1msg isStatus, ms ≠ .noMore → I ms s →
      I (w1msgExecCb cfg s w1msg isStatus).1 (w1msgExecCb cfg s w1msg isStatus).2)
    (hs : I .moreReq (.init m))
    (h : (w1MsgExec cfg fuel hndl m mem msgBuf env).ret = some (ret, dta)) :
    ∃ ms, I ms dta ∧ (ret = .success → ms ≠ .moreReq ∧ dta.status = 0) := by
  rw [w1MsgExec] at h
  split at h
  · cases h
    exact ⟨_, hs, by rintro ⟨⟩⟩
  split at h
  · cases h
    exact ⟨_, hs, by rintro ⟨⟩⟩
  obtain ⟨⟨ret', dta'⟩, hret, hpair⟩ := Option.map_eq_some_iff.mp h
  obtain ⟨hcode, rfl⟩ := Prod.mk.inj hpair
  obtain ⟨ms, hI, hms⟩ := sendRecvW1msg_invariant hcb hs hret
  refine ⟨ms, hI, ?_⟩
  rintro rfl
  dsimp only at hcode ⊢
  -- only a success of the receive loop is turned into an error by the status
  by_cases hsucc : ret' = .success
  · rw [if_neg (not_not.mpr hsucc)] at hcode
    by_cases hst : dta'.status = 0
    · exact ⟨hms hsucc, hst⟩
    · rw [if_pos hst] at hcode
      cases hcode
  · rw [if_pos hsucc] at hcode
    exact absurd hcode hsucc

/-- What a run of the callback makes of the state, whatever it is handed. -/
def replay (cfg : Config) (m : W1Msg) (rs : List (W1NetlinkMsg × Bool)) : W1msgExecCbDta :=
  rs.foldl (fun s r => (w1msgExecCb cfg s r.1 r.2).2) (.init m)

end Librasp
