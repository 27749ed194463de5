import Librasp.W1.CmdLoops
import Librasp.W1.Reference

/-!
# The parse loops end

Each round of the connector loop, of the w1 loop and of the loops over w1 commands moves its
cursor on, or, in `w1msg_exec_cb`, moves on to a later command of the message, so that they end
whatever was received. The netlink loop does so too, but for one case: a no-op message, on which
`continue` goes back to the test with the cursor where it was.

* `LoopsEnd` says of a datagram that each of the loops ends, with progress in every round that
  stays in it (`Loop.Ends`). Each loop starts on what the one before it has left at the front of
  the buffer.
* `ReachesNoop` is the condition, on the bytes of the datagram: the chain comes to a no-op message
  before its last part, an error, or its end. The reference parser has no outcome just then
  (`nlChain_eq_none_iff`).

**Main result.** `recvLoops_end_iff`, for every datagram; `recvLoops_noop_fails` is one of a
single no-op message.
-/

namespace Librasp

/-! ### No-op messages -/

/-- A whole netlink message is at the front. -/
def NlFront (bs : List UInt8) : Prop :=
  nlmsgHdrlen ≤ bs.length ∧ nlmsgHdrlen ≤ nlLen bs ∧ nlLen bs ≤ bs.length

/-- The netlink chain comes to a no-op message: all before it are parts of a multipart message, and
neither the last part nor an error. -/
inductive ReachesNoop : List UInt8 → Prop
  | here {bs : List UInt8} : NlFront bs → (nlmsghdrAt (ofBytes bs) 0).nlmsgType = nlmsgNoop →
      ReachesNoop bs
  | later {bs : List UInt8} : NlFront bs →
      (nlmsghdrAt (ofBytes bs) 0).nlmsgType ≠ nlmsgError →
      (nlmsghdrAt (ofBytes bs) 0).nlmsgType ≠ nlmsgDone →
      (nlmsghdrAt (ofBytes bs) 0).nlmsgFlags &&& nlmFMulti ≠ 0 →
      ReachesNoop (bs.drop (nlmsgAlign (nlLen bs))) → ReachesNoop bs

/-- The reference parser has no outcome just when it comes to a no-op message. Both sides follow
the chain message by message, by induction on the length of what is left. -/
theorem nlChain_eq_none_iff (bs : List UInt8) : nlChain bs = none ↔ ReachesNoop bs := by
  induction bs using nlChain.induct with
  | case1 bs hok hnoop =>
    rw [nlChain, if_pos hok, if_pos hnoop]
    exact iff_of_true rfl (.here hok hnoop)
  | case2 bs hok hnoop herr =>
    rw [nlChain, if_pos hok, if_neg hnoop, if_pos herr]
    refine iff_of_false (Option.some_ne_none _) ?_
    rintro (⟨-, h⟩ | ⟨-, h, -⟩)
    · exact hnoop h
    · exact h herr
  | case3 bs hok hnoop herr hdone =>
    rw [nlChain, if_pos hok, if_neg hnoop, if_neg herr, if_pos hdone]
    refine iff_of_false (Option.some_ne_none _) ?_
    rintro (⟨-, h⟩ | ⟨-, -, h, -⟩)
    · exact hnoop h
    · exact h hdone
  | case4 bs hok hnoop herr hdone hmulti ih =>
    rw [nlChain, if_pos hok, if_neg hnoop, if_neg herr, if_neg hdone, if_pos hmulti,
      Option.map_eq_none_iff, ih]
    constructor
    · exact .later hok herr hdone hmulti
    · rintro (⟨-, h⟩ | ⟨-, -, -, -, h⟩)
      · exact absurd h hnoop
      · exact h
  | case5 bs hok hnoop herr hdone hmulti =>
    rw [nlChain, if_pos hok, if_neg hnoop, if_neg herr, if_neg hdone, if_neg hmulti]
    refine iff_of_false (Option.some_ne_none _) ?_
    rintro (⟨-, h⟩ | ⟨-, -, -, h, -⟩)
    · exact hnoop h
    · exact hmulti h
  | case6 bs hok =>
    rw [nlChain, if_neg hok]
    refine iff_of_false (Option.some_ne_none _) ?_
    rintro (⟨h, -⟩ | ⟨h, -⟩)
    · exact hok h
    · exact hok h

/-! ### The loops -/

/-- The netlink loop starts on a datagram, received into the buffer. -/
def nlStart (buf : Mem UInt8) (bs : List UInt8) : NlState :=
  ⟨buf.write 0 (bs.take maxW1NetlinkMsgSz), 0, (bs.take maxW1NetlinkMsgSz).length, 0⟩

/-- The connector loop starts on what the netlink loop left at the front. -/
def cnStart (nl : NlState) : CnState := ⟨nl.recvBuf, 0, nl.offs, 0⟩

/-- The w1 loop starts on what the connector loop left at the front. -/
def w1Start {σ : Type*} (cn : CnState) (ms : W1msgMoreStat) (priv : σ) : W1State σ :=
  ⟨cn.recvBuf, 0, 4, cn.offs, ms, priv⟩

section Starts

variable {σ : Type*} {w : WordSize} {pReq : CnMsg} {buf : Mem UInt8} {bs : List UInt8}

theorem nlRel_nlStart (buf : Mem UInt8) (bs : List UInt8) :
    NlRel (nlStart buf bs) ([], bs.take maxW1NetlinkMsgSz) :=
  ⟨le_rfl, rfl, (Mem.read_write_self buf 0 _).symm⟩

theorem nlRefOut_nil (bs : List UInt8) : nlRefOut ([], bs) = nlChain bs := by
  rw [nlRefOut]
  rcases nlChain bs with _ | _ | _ <;> rfl

/-- What the netlink loop leaves at the front is the payload of the datagram. -/
theorem nlChain_of_run {fuel : ℕ} {nl : NlState}
    (h : Loop.run nlStep fuel (nlStart buf bs) = some (.ok nl)) :
    nlChain (bs.take maxW1NetlinkMsgSz) = some (.ok (nl.recvBuf.read 0 nl.offs)) := by
  have hlt : (nlStart buf bs).dtaLen.toNat < max fuel (maxW1NetlinkMsgSz + 1) :=
    lt_of_le_of_lt (by simp [nlStart]) (lt_max_of_lt_right (Nat.lt_succ_self _))
  have hrun := run_nlStep (nlRel_nlStart buf bs) hlt
  rw [Loop.run_eq_some_of_le h (le_max_left _ _), nlRefOut_nil] at hrun
  exact hrun.symm

theorem offs_le_of_run {fuel : ℕ} {nl : NlState}
    (h : Loop.run nlStep fuel (nlStart buf bs) = some (.ok nl)) :
    nl.offs ≤ maxW1NetlinkMsgSz := by
  have hle := length_nlChain_le (nlChain_of_run h)
  rw [Mem.length_read] at hle
  exact hle.trans (List.length_take_le _ _)

theorem cnRel_cnStart {nl : NlState} (h : nl.offs ≤ maxW1NetlinkMsgSz) :
    CnRel (cnStart nl) ([], nl.recvBuf.read 0 nl.offs) := by
  have hsz : maxW1NetlinkMsgSz = 4112 := rfl
  exact ⟨le_rfl, by simp [cnStart], by simp [cnStart]; omega, rfl, by simp [cnStart]⟩

/-- What the connector loop leaves at the front are the frames of the messages it keeps. -/
theorem frames_of_run {nl : NlState} {cn : CnState} {fuel : ℕ} (hoffs : nl.offs ≤ maxW1NetlinkMsgSz)
    (h : Loop.run (cnStep w pReq) fuel (cnStart nl) = some cn) :
    cn.recvBuf.read 0 cn.offs =
      (keptCnMsgs pReq (nl.recvBuf.read 0 nl.offs)).flatMap ackFrame := by
  have hlt : (cnStart nl).dtaLen.toNat < max fuel (nl.offs + 1) :=
    lt_of_le_of_lt (by simp [cnStart]) (lt_max_of_lt_right (Nat.lt_succ_self _))
  obtain ⟨r, hr, hout⟩ := run_cnStep w pReq (cnRel_cnStart hoffs) hlt
  obtain rfl := Option.some.inj ((Loop.run_eq_some_of_le h (le_max_left _ _)).symm.trans hr)
  exact hout

theorem offs_le_of_run_cn {nl : NlState} {cn : CnState} {fuel : ℕ}
    (hoffs : nl.offs ≤ maxW1NetlinkMsgSz)
    (h : Loop.run (cnStep w pReq) fuel (cnStart nl) = some cn) : cn.offs ≤ nl.offs := by
  have hle := length_ackFrames_le pReq (nl.recvBuf.read 0 nl.offs)
  rwa [← frames_of_run hoffs h, Mem.length_read, Mem.length_read] at hle

theorem w1Rel_w1Start {cn : CnState} (h : cn.offs ≤ maxW1NetlinkMsgSz) (ms : W1msgMoreStat)
    (priv : σ) : W1Rel (w1Start cn ms priv) ((ms, priv), cn.recvBuf.read 0 cn.offs) := by
  have hsz : maxW1NetlinkMsgSz = 4112 := rfl
  exact ⟨rfl, by simp [w1Start], by simp [w1Start]; omega, rfl, by simp [w1Start]⟩

end Starts

/-! ### Termination -/

/-- A round of the loop of `w1msg_exec_cb` takes a w1 command, or moves on to a later command of
the message. -/
def ExecProgress (s s' : ExecSt) : Prop :=
  s'.cur.dtaLen < s.cur.dtaLen ∨ s.dta.nPrcCmds < s'.dta.nPrcCmds

section Ends

variable {σ : Type*} (cfg : Config) (pReq : CnMsg) (recvCb : RecvW1msgCb σ)

/-- The loops end on a datagram, and each of their rounds takes some of the bytes that are left or
moves on to a later command: the three parse loops of `recv_w1msg`, each one where the one before
it leads to it, and the loops of the two callbacks, on any message that they are handed. -/
structure LoopsEnd (buf : Mem UInt8) (bs : List UInt8) (ms : W1msgMoreStat) (priv : σ) :
    Prop where
  netlink : Loop.Ends nlStep (fun s s' => s'.dtaLen < s.dtaLen) (nlStart buf bs)
  connector : ∀ fuel nl, Loop.run nlStep fuel (nlStart buf bs) = some (.ok nl) →
    Loop.Ends (cnStep cfg.word pReq) (fun s s' => s'.dtaLen < s.dtaLen) (cnStart nl)
  w1 : ∀ fuel nl cn, Loop.run nlStep fuel (nlStart buf bs) = some (.ok nl) →
    Loop.run (cnStep cfg.word pReq) fuel (cnStart nl) = some cn →
    Loop.Ends (w1Step cfg.word pReq recvCb) (fun s s' => s'.dtaLen < s.dtaLen)
      (w1Start cn ms priv)
  search : ∀ (m : Mem UInt8) (p : ℕ) (ret : W1msgMoreStat) (dta : ListCbDta),
    Loop.Ends (searchStep cfg.word ret m) (fun s s' => s'.1.dtaLen < s.1.dtaLen)
      (cmdCursorAt m p, dta)
  exec : ∀ (m : Mem UInt8) (p : ℕ) (isStatus : Bool) (dta : W1msgExecCbDta),
    Loop.Ends (execStep cfg m (w1MsgAt m p) isStatus) ExecProgress ⟨true, cmdCursorAt m p, dta⟩

variable {cfg pReq recvCb}

/-- Before a chain without a no-op message the netlink loop ends: every other message takes its
length off what is left. -/
theorem ends_netlink {s : NlState} {t : List UInt8 × List UInt8} (h : NlRel s t)
    (ht : nlRefOut t ≠ none) : Loop.Ends nlStep (fun s s' => s'.dtaLen < s.dtaLen) s := by
  have hstep : ∀ s s', (∃ t, NlRel s t ∧ nlRefOut t ≠ none) → nlStep s = .inl s' →
      (∃ t, NlRel s' t ∧ nlRefOut t ≠ none) ∧ s'.dtaLen < s.dtaLen ∧
        s'.dtaLen.toNat < s.dtaLen.toNat := by
    rintro s s' ⟨t, hR, ht⟩ hs
    rcases nlStep_refines s t hR with ⟨r, hr, -⟩ | ⟨s'', t', hs', hR', hlt, ht'⟩ | ⟨-, hnone⟩
    · cases hr.symm.trans hs
    · obtain rfl := Sum.inl.inj (hs'.symm.trans hs)
      exact ⟨⟨t', hR', ht' ▸ ht⟩, by omega, hlt⟩
    · exact absurd hnone ht
  exact Loop.ends_of_invariant (fun s => s.dtaLen.toNat) hstep ⟨t, h, ht⟩

/-- Before a chain that comes to a no-op message it never does. The invariant is that the state is
one from which the chain comes to it, and at the message itself a round changes nothing. -/
theorem not_ends_netlink {s : NlState} {t : List UInt8 × List UInt8} (h : NlRel s t)
    (ht : nlRefOut t = none) : ¬ Loop.Ends nlStep (fun s s' => s'.dtaLen < s.dtaLen) s := by
  rintro ⟨⟨fuel, r, hr⟩, -⟩
  have hlt : s.dtaLen.toNat < max fuel (s.dtaLen.toNat + 1) :=
    lt_max_of_lt_right (Nat.lt_succ_self _)
  have hrun := run_nlStep h hlt
  rw [Loop.run_eq_some_of_le hr (le_max_left _ _), ht] at hrun
  exact nomatch hrun

theorem ends_connector (w : WordSize) {s : CnState} {t : List UInt8 × List UInt8}
    (h : CnRel s t) : Loop.Ends (cnStep w pReq) (fun s s' => s'.dtaLen < s.dtaLen) s := by
  have hstep : ∀ s s', (∃ t, CnRel s t) → cnStep w pReq s = .inl s' →
      (∃ t, CnRel s' t) ∧ s'.dtaLen < s.dtaLen ∧ s'.dtaLen.toNat < s.dtaLen.toNat := by
    rintro s s' ⟨t, hR⟩ hs
    rcases cnStep_refines w pReq s t hR with ⟨r, hr, -⟩ | ⟨s'', t', hs', hR', hlt, -⟩
    · cases hr.symm.trans hs
    · obtain rfl := Sum.inl.inj (hs'.symm.trans hs)
      exact ⟨⟨t', hR'⟩, by omega, hlt⟩
  exact Loop.ends_of_invariant (fun s => s.dtaLen.toNat) hstep ⟨t, h⟩

theorem ends_w1 (w : WordSize) {s : W1State σ} {t : (W1msgMoreStat × σ) × List UInt8}
    (h : W1Rel s t) :
    Loop.Ends (w1Step w pReq recvCb) (fun s s' => s'.dtaLen < s.dtaLen) s := by
  have hstep : ∀ s s', (∃ t, W1Rel s t) → w1Step w pReq recvCb s = .inl s' →
      (∃ t, W1Rel s' t) ∧ s'.dtaLen < s.dtaLen ∧ s'.dtaLen.toNat < s.dtaLen.toNat := by
    rintro s s' ⟨t, hR⟩ hs
    rcases w1Step_refines w pReq s t hR with ⟨r, hr, -⟩ | ⟨s'', t', hs', hR', hlt, -⟩
    · cases hr.symm.trans hs
    · obtain rfl := Sum.inl.inj (hs'.symm.trans hs)
      exact ⟨⟨t', hR'⟩, by omega, hlt⟩
  exact Loop.ends_of_invariant (fun s => s.dtaLen.toNat) hstep ⟨t, h⟩

theorem ends_search (w : WordSize) (ret : W1msgMoreStat) (m : Mem UInt8)
    (s : CmdCursor × ListCbDta) :
    Loop.Ends (searchStep w ret m) (fun s s' => s'.1.dtaLen < s.1.dtaLen) s := by
  have hstep : ∀ s s', True → searchStep w ret m s = .inl s' →
      True ∧ s'.1.dtaLen < s.1.dtaLen ∧ s'.1.dtaLen < s.1.dtaLen := by
    intro s s' _ h
    obtain ⟨hok, hnext⟩ := searchStep_inl w m h
    have hlt := dtaLen_w1cmdNext_lt hok
    rw [← hnext] at hlt
    exact ⟨trivial, hlt, hlt⟩
  exact Loop.ends_of_invariant (fun s : CmdCursor × ListCbDta => s.1.dtaLen) hstep trivial

theorem execProgress_step {m : Mem UInt8} {w1msg : W1NetlinkMsg} {isStatus : Bool}
    {s s' : ExecSt} (h : execStep cfg m w1msg isStatus s = .inl s') : ExecProgress s s' := by
  rcases execStep_inl h with ⟨hok, hnext⟩ | ⟨-, hprc⟩
  · left
    rw [hnext]
    exact dtaLen_w1cmdNext_lt hok
  · exact Or.inr hprc

theorem ends_exec (cfg : Config) (m : Mem UInt8) (w1msg : W1NetlinkMsg) (isStatus : Bool)
    {s : ExecSt} {t : Bool × List W1NetlinkCmd × W1msgExecCbDta} (h : ExecRel m s t) :
    Loop.Ends (execStep cfg m w1msg isStatus) ExecProgress s := by
  have hstep : ∀ s s', (∃ t, ExecRel m s t) → execStep cfg m w1msg isStatus s = .inl s' →
      (∃ t, ExecRel m s' t) ∧ ExecProgress s s' ∧ execMeasure s' < execMeasure s := by
    rintro s s' ⟨t, hR⟩ hs
    rcases execStep_refines s t hR with ⟨r, hr, -⟩ | ⟨s'', t', hs', hR', hlt, -⟩
    · cases hr.symm.trans hs
    · obtain rfl := Sum.inl.inj (hs'.symm.trans hs)
      exact ⟨⟨t', hR'⟩, execProgress_step hs, hlt⟩
  exact Loop.ends_of_invariant execMeasure hstep ⟨t, h⟩

/-- On every datagram the loops end, with progress in every round, exactly if the netlink chain
does not come to a no-op message. -/
theorem recvLoops_end_iff (cfg : Config) (pReq : CnMsg) (recvCb : RecvW1msgCb σ) (buf : Mem UInt8)
    (bs : List UInt8) (ms : W1msgMoreStat) (priv : σ) :
    LoopsEnd cfg pReq recvCb buf bs ms priv ↔ ¬ ReachesNoop (bs.take maxW1NetlinkMsgSz) := by
  rw [← nlChain_eq_none_iff, ← nlRefOut_nil]
  constructor
  · intro h hnone
    exact not_ends_netlink (nlRel_nlStart buf bs) hnone h.netlink
  · intro hsome
    exact {
      netlink := ends_netlink (nlRel_nlStart buf bs) hsome
      connector := fun fuel nl hnl => ends_connector cfg.word (cnRel_cnStart (offs_le_of_run hnl))
      w1 := fun fuel nl cn hnl hcn => ends_w1 cfg.word
        (w1Rel_w1Start ((offs_le_of_run_cn (offs_le_of_run hnl) hcn).trans (offs_le_of_run hnl))
          ms priv)
      search := fun m p ret dta => ends_search cfg.word ret m _
      exec := fun m p isStatus dta => ends_exec cfg m _ isStatus ⟨rfl, nofun⟩ }

end Ends

/-- A datagram of one no-op message. -/
theorem recvLoops_noop_fails :
    let pReq : CnMsg := ⟨cnW1Idx, cnW1Val, 7, ackStatVal, 0, [], Nat.zero_lt_succ _⟩
    let recvCb : RecvW1msgCb ℕ := fun n _ _ => (.noMore, n + 1)
    ¬ LoopsEnd ⟨false, .lp64⟩ pReq recvCb (fun _ => 0)
      [16, 0, 0, 0, 1, 0, 0, 0, 0, 0, 0, 0, 0, 0, 0, 0] .moreReq 0 := by
  intro pReq recvCb h
  have hnoop : ReachesNoop [16, 0, 0, 0, 1, 0, 0, 0, 0, 0, 0, 0, 0, 0, 0, 0] :=
    .here ⟨by decide, by decide, by decide⟩ (by decide)
  refine not_ends_netlink (nlRel_nlStart _ _) ?_ h.netlink
  rw [nlRefOut_nil, nlChain_eq_none_iff]
  exact hnoop

end Librasp
