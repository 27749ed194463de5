import Librasp.W1.Exec

/-!
# What the execution of a message leaves alone

Whatever stream of w1 messages the callback is handed, it only moves forward through the commands,
reads `cmds[]` only where there are commands, leaves the message as it is, and writes nothing but
whole buffers of read and touch commands (`Extends`, `Framed`). Together with the place of the
message in memory this makes the buffers of all other commands, the message object and the rest of
the caller's memory a frame (`framed_replay`).

* `Extends` is an order on the states of the callback: what may have been added to them. Every
  call goes up in it (`extends_w1msgExecCb`), by the rule for the callback, and so does every run.
* Nothing is asked of the stream. The messages may be anything that the parser lets through, with
  any status and any data.

**Main result.** `w1MsgExec_frame`, for a message that the builder functions produced, with
buffers that do not overlap.
-/

namespace Librasp

/-- A write of a whole buffer of a read or touch command. -/
def IsCmdWrite (m : W1Msg) (w : ℕ × List UInt8) : Prop :=
  ∃ c ∈ m.cmdList, c.type.isRespRequired = true ∧ w.1 = c.pData ∧ w.2.length = c.len

/-- What the callback may do to its data. -/
structure Extends (s s' : W1msgExecCbDta) : Prop where
  w1msg : s'.w1msg = s.w1msg
  nPrcCmds_le : s.nPrcCmds ≤ s'.nPrcCmds
  le_nCmds : s.nPrcCmds ≤ s.w1msg.nCmds → s'.nPrcCmds ≤ s.w1msg.nCmds
  indices : ∃ is, s'.indices = s.indices ++ is ∧ ∀ i ∈ is, i < s.w1msg.nCmds
  writes : ∃ ws, s'.writes = s.writes ++ ws ∧ ∀ w ∈ ws, IsCmdWrite s.w1msg w

namespace Extends

theorem refl (s : W1msgExecCbDta) : Extends s s :=
  ⟨rfl, le_rfl, id, ⟨[], by simp⟩, [], by simp⟩

/-- What is added twice is added: the writes of both parts come one behind the other, and so do
the reads of `cmds[]`. -/
theorem trans {s s' s'' : W1msgExecCbDta} (h : Extends s s') (h' : Extends s' s'') :
    Extends s s'' := by
  obtain ⟨is, his, hislt⟩ := h.indices
  obtain ⟨is', his', hislt'⟩ := h'.indices
  obtain ⟨ws, hws, hwsok⟩ := h.writes
  obtain ⟨ws', hws', hwsok'⟩ := h'.writes
  have hmsg := h.w1msg
  refine ⟨h'.w1msg.trans hmsg, h.nPrcCmds_le.trans h'.nPrcCmds_le, fun hle => ?_,
    ⟨is ++ is', by rw [his', his, List.append_assoc], ?_⟩,
    ⟨ws ++ ws', by rw [hws', hws, List.append_assoc], ?_⟩⟩
  · exact hmsg ▸ h'.le_nCmds (hmsg ▸ h.le_nCmds hle)
  · intro i hi
    rcases List.mem_append.mp hi with hi | hi
    · exact hislt i hi
    · exact hmsg ▸ hislt' i hi
  · intro w hw
    rcases List.mem_append.mp hw with hw | hw
    · exact hwsok w hw
    · exact hmsg ▸ hwsok' w hw

/-- Only the fields named here are followed; the others may change freely. -/
theorem of_eq {s s' : W1msgExecCbDta} (hmsg : s'.w1msg = s.w1msg)
    (hprc : s'.nPrcCmds = s.nPrcCmds) (hidx : s'.indices = s.indices)
    (hw : s'.writes = s.writes) : Extends s s' :=
  ⟨hmsg, hprc.ge, fun h => hprc ▸ h, ⟨[], by simp [hidx], by simp⟩, ⟨[], by simp [hw], by simp⟩⟩

theorem index {s : W1msgExecCbDta} {is : List ℕ} (his : ∀ i ∈ is, i < s.w1msg.nCmds) :
    Extends s { s with indices := s.indices ++ is } :=
  ⟨rfl, le_rfl, id, ⟨is, rfl, his⟩, [], by simp⟩

theorem next {s : W1msgExecCbDta} (hlt : s.nPrcCmds < s.w1msg.nCmds) : Extends s s.next :=
  ⟨rfl, Nat.le_succ _, fun _ => hlt, ⟨[], by simp [W1msgExecCbDta.next]⟩,
    [], by simp [W1msgExecCbDta.next]⟩

theorem copy {s : W1msgExecCbDta} {w1cmd : W1NetlinkCmd} (hlt : s.nPrcCmds < s.w1msg.nCmds)
    (hresp : s.cur.type.isRespRequired = true) (hlen : w1cmd.len = s.cur.len) :
    Extends s ((s.take w1cmd).copy w1cmd) := by
  refine ⟨rfl, le_rfl, id, ⟨[], by simp [W1msgExecCbDta.copy, W1msgExecCbDta.take]⟩, _, rfl, ?_⟩
  rintro w hw
  rw [List.mem_singleton.mp hw]
  exact ⟨s.cur, W1Msg.mem_cmdList hlt, hresp, rfl, hlen⟩

end Extends

/-- Every call of the callback extends its data: each way through its loops is a step up, or
leaves the fields that are followed here. -/
theorem extends_w1msgExecCb (cfg : Config) (s : W1msgExecCbDta) (w1msg : W1NetlinkMsg)
    (isStatus : Bool) : Extends s (w1msgExecCb cfg s w1msg isStatus).2 := by
  have hrule : ExecRule cfg w1msg isStatus (fun _ t => Extends s t) (fun _ t => Extends s t) :=
    { exhausted := fun ht _ => ht
      status := fun ht _ _ _ => ht.trans (.of_eq rfl rfl rfl rfl)
      index := fun ht hlt _ => ht.trans (.index (by simpa using hlt))
      next := fun ht hlt _ _ _ => ht.trans (.next hlt)
      unexpected := fun ht _ _ _ _ => ht.trans (.of_eq rfl rfl rfl rfl)
      badLen := fun ht _ _ _ _ _ => ht.trans (.of_eq rfl rfl rfl rfl)
      copy := fun ht hlt _ hresp _ hlen _ => ht.trans (.copy hlt hresp hlen)
      take := fun ht _ _ _ => ht.trans (.of_eq rfl rfl rfl rfl)
      done := fun ht _ _ => ht.trans (.index (respAfter_snd _ _ _)) }
  exact hrule.w1msgExecCb (.of_eq rfl rfl rfl rfl)

/-- Every run of the callback extends its data. -/
theorem extends_foldl (cfg : Config) (s : W1msgExecCbDta) (rs : List (W1NetlinkMsg × Bool)) :
    Extends s (rs.foldl (fun s r => (w1msgExecCb cfg s r.1 r.2).2) s) := by
  induction rs generalizing s with
  | nil => exact .refl s
  | cons r rs ih => exact (extends_w1msgExecCb cfg s r.1 r.2).trans (ih _)

/-- What a run of the callback leaves alone, for a message placed at `base` in a caller's
memory `mem`. -/
structure Framed (w : WordSize) (m : W1Msg) (base : ℕ) (mem : Mem UInt8) (s : W1msgExecCbDta) :
    Prop where
  /-- The message and its command descriptors are what they were. -/
  w1msg : s.w1msg = m
  nPrcCmds_le : s.nPrcCmds ≤ m.nCmds
  indices : ∀ i ∈ s.indices, i < m.nCmds
  writes : ∀ w ∈ s.writes, IsCmdWrite m w
  /-- Nothing outside the buffers of read and touch commands changes. -/
  outside : ∀ x, (∀ c ∈ m.cmdList, c.type.isRespRequired = true →
    x < c.pData ∨ c.pData + c.len ≤ x) → mem.writeAll s.writes x = mem x
  /-- The buffers of all other commands keep their contents. -/
  inputs : ∀ c ∈ m.cmdList, c.type.isRespRequired = false →
    (mem.writeAll s.writes).read c.pData c.len = mem.read c.pData c.len
  /-- The message object keeps its contents. -/
  descriptors : ∀ x, base ≤ x → x < base + w.getW1CmdsBufsz m.maxCmds →
    mem.writeAll s.writes x = mem x

/-- A byte that no buffer of a read or touch command contains is not written. -/
private theorem writeAll_apply_of_cmdWrites {m : W1Msg} {ws : List (ℕ × List UInt8)}
    (hws : ∀ w ∈ ws, IsCmdWrite m w) (mem : Mem UInt8) {x : ℕ}
    (hx : ∀ c ∈ m.cmdList, c.type.isRespRequired = true → x < c.pData ∨ c.pData + c.len ≤ x) :
    mem.writeAll ws x = mem x := by
  refine Mem.writeAll_apply_of_forall_not_mem mem fun w hw => ?_
  obtain ⟨c, hc, hresp, haddr, hlen⟩ := hws w hw
  rw [haddr, hlen]
  exact hx c hc hresp

/-- A run of the callback writes whole buffers only. -/
theorem isCmdWrite_replay (cfg : Config) (m : W1Msg) (rs : List (W1NetlinkMsg × Bool)) :
    ∀ w ∈ (replay cfg m rs).writes, IsCmdWrite m w := by
  obtain ⟨ws, hws, hwsok⟩ := (extends_foldl cfg (.init m) rs).writes
  intro w hw
  rw [replay, hws] at hw
  exact hwsok w (by simpa [W1msgExecCbDta.init] using hw)

/-- **The frame of the callback.** A run writes whole buffers of read and touch commands, each
with as many bytes as the buffer has; a byte that none of them contains keeps its value. -/
theorem framed_replay {cfg : Config} {m : W1Msg} {base : ℕ} (hp : m.Placed cfg.word base)
    (mem : Mem UInt8) (rs : List (W1NetlinkMsg × Bool)) :
    Framed cfg.word m base mem (replay cfg m rs) := by
  have hext := extends_foldl cfg (.init m) rs
  obtain ⟨is, his, hislt⟩ := hext.indices
  have hwrites := isCmdWrite_replay cfg m rs
  refine ⟨hext.w1msg, hext.le_nCmds (Nat.zero_le _), fun i hi => ?_, hwrites,
    fun x hx => writeAll_apply_of_cmdWrites hwrites mem hx, fun c hc hresp => ?_,
    fun x hx hx' => ?_⟩
  · rw [replay, his] at hi
    exact hislt i (by simpa [W1msgExecCbDta.init] using hi)
  · -- a buffer that is not written for its own command is not written for another one
    refine Mem.read_congr fun x hx hx' => writeAll_apply_of_cmdWrites hwrites mem ?_
    intro d hd hresp'
    have hne : c ≠ d := by
      rintro rfl
      rw [hresp] at hresp'
      cases hresp'
    have : Std.Symm fun c d : W1Cmd => Apart c.pData c.len d.pData d.len :=
      ⟨fun _ _ h => h.symm⟩
    have hapart := hp.buf_buf.forall hc hd hne
    rw [Apart] at hapart
    omega
  · refine writeAll_apply_of_cmdWrites hwrites mem fun d hd _ => ?_
    have hapart := hp.buf_msg d hd
    rw [Apart] at hapart
    omega

/-- The data that `w1_msg_exec` leaves behind is that of the run of the callback it made. So what
is shown of all runs is shown of the function. -/
theorem eq_replay_of_w1MsgExec {cfg : Config} {fuel : ℕ} {hndl : W1Hndl} {m : W1Msg}
    {mem msgBuf : Mem UInt8} {env : IoEnv} {ret : LrErrc} {dta : W1msgExecCbDta}
    (h : (w1MsgExec cfg fuel hndl m mem msgBuf env).ret = some (ret, dta)) :
    dta = replay cfg m dta.handed := by
  refine (w1MsgExec_invariant (I := fun _ s => s = replay cfg m s.handed) ?_ rfl h).elim
    fun _ hI => hI.1
  intro ms s w1msg isStatus _ hs
  have hrule : ExecRule cfg w1msg isStatus
      (fun _ t => t.handed = s.handed ++ [(w1msg, isStatus)])
      (fun _ t => t.handed = s.handed ++ [(w1msg, isStatus)]) :=
    { exhausted := fun ht _ => ht
      status := fun ht _ _ _ => ht
      index := fun ht _ _ => ht
      next := fun ht _ _ _ _ => ht
      unexpected := fun ht _ _ _ _ => ht
      badLen := fun ht _ _ _ _ _ => ht
      copy := fun ht _ _ _ _ _ _ => ht
      take := fun ht _ _ _ => ht
      done := fun ht _ _ => ht }
  have hhanded := hrule.w1msgExecCb (s := s) rfl
  rw [hhanded, replay, List.foldl_append, ← replay, ← hs]
  rfl

/-- **Frame.** Executing a message that the builder functions produced, with buffers that do
not overlap, writes no memory of the caller but whole buffers of its read and touch commands,
whatever stream of w1 messages comes back; `n_prc_cmds` only grows, up to `n_cmds`, and the
message is encoded within `msg_buf`. -/
theorem w1MsgExec_frame {cfg : Config} {m : W1Msg} {base : ℕ} (hm : Built cfg m)
    (hp : m.Placed cfg.word base) (mem : Mem UInt8) :
    (∀ rs, Framed cfg.word m base mem (replay cfg m rs) ∧
        ∀ rs', (replay cfg m rs).nPrcCmds ≤ (replay cfg m (rs ++ rs')).nPrcCmds) ∧
      ∀ (fuel : ℕ) (hndl : W1Hndl) (msgBuf : Mem UInt8) (env : IoEnv),
        (∀ ret dta, (w1MsgExec cfg fuel hndl m mem msgBuf env).ret = some (ret, dta) →
          dta = replay cfg m dta.handed) ∧
        (msgLen cfg m ≤ sizeofMsgBuf →
          ∀ x, sizeofMsgBuf ≤ x → fillMsgBuf cfg mem m msgBuf x = msgBuf x) := by
  have hwf := hm.wellFormed
  refine ⟨fun rs => ⟨framed_replay hp mem rs, fun rs' => ?_⟩,
    fun fuel hndl msgBuf env => ⟨fun ret dta h => eq_replay_of_w1MsgExec h, fun hle x hx => ?_⟩⟩
  · rw [replay, replay, List.foldl_append]
    exact (extends_foldl cfg _ rs').nPrcCmds_le
  · have hlt : sizeofW1NetlinkMsg + m.cmdsSize < 2 ^ cfg.word.bits := hp.cmdsSize_lt hwf.nCmds_le
    have hsize := msgLen_eq hwf hlt
    exact fillMsgBuf_apply hwf mem msgBuf (by omega) (by omega)

/-- A read and a write command with buffers of their own. -/
theorem w1MsgExec_frame_readWrite :
    let cfg : Config := ⟨false, .lp64⟩
    let mem : Mem UInt8 := fun _ => 0
    let m := (addWriteW1Cmd (addReadW1Cmd (w1MasterMsgInit 1 2) 100 3).2 200 2).2
    (∀ rs, Framed cfg.word m 1000 mem (replay cfg m rs) ∧
        ∀ rs', (replay cfg m rs).nPrcCmds ≤ (replay cfg m (rs ++ rs')).nPrcCmds) ∧
      ∀ (fuel : ℕ) (hndl : W1Hndl) (msgBuf : Mem UInt8) (env : IoEnv),
        (∀ ret dta, (w1MsgExec cfg fuel hndl m mem msgBuf env).ret = some (ret, dta) →
          dta = replay cfg m dta.handed) ∧
        (msgLen cfg m ≤ sizeofMsgBuf →
          ∀ x, sizeofMsgBuf ≤ x → fillMsgBuf cfg mem m msgBuf x = msgBuf x) := by
  have hplaced : (addWriteW1Cmd (addReadW1Cmd (w1MasterMsgInit 1 2) 100 3).2 200 2).2.Placed
      .lp64 1000 := ⟨by decide, by decide, by decide, by decide⟩
  exact w1MsgExec_frame (.addWrite (.addRead (.masterInit 1 2) 100 3) 200 2) hplaced _

end Librasp
