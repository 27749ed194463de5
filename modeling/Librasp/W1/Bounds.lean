import Librasp.W1.Datagram
import Librasp.W1.Termination

/-!
# The receive buffer is not left

What the parse loops of `recv_w1msg` and the loops of its callbacks read and write of the receive
buffer, round by round, the tests of the loops included. The length fields of connector messages,
w1 messages and w1 commands are read by the tests before it is known that a header is left, so
that a test at the end of the data reads behind them. The frames of the second compaction and the
messages in them leave enough room for that; the payloads at the front of the buffer leave 16
bytes, and the length field of a connector message ends at 18.

* An `Access` is a stretch of the buffer. There is a list of them for a round of each loop
  (`nlAccesses`, `cnAccesses`, `w1Accesses`), and those of a callback on a message.
* Each loop has an invariant that says where its data end and how much is behind (`NlInside`,
  `CnInside`, `W1Inside`); a step lemma keeps it, and the accesses of a round are within the
  buffer by it.
* `CnRoom` is the condition: behind the whole connector messages of a datagram there is room for
  one more length field.

**Main result.** `recvStaysInside_iff`, for every datagram. A datagram that fills the buffer with
one connector message has no such room (`recvStaysInside_full_fails`).
-/

namespace Librasp

/-! ### Accesses -/

/-- An access to the receive buffer: `len` bytes from `addr` on. -/
structure Access where
  addr : ℕ
  len : ℕ

/-- An access within the buffer. -/
def Access.Inside (a : Access) : Prop := a.addr + a.len ≤ maxW1NetlinkMsgSz

/-- A round of the netlink loop: the length field, the header, and the payload that is moved. -/
def nlAccesses (s : NlState) : List Access :=
  if (nlmsgHdrlen : ℤ) ≤ s.dtaLen then
    ⟨s.pNlmsg, 4⟩ :: if nlmsgOk s then
      let nlmsg := nlmsghdrAt s.recvBuf s.pNlmsg
      let len := nlmsg.nlmsgLen.toNat
      ⟨s.pNlmsg, nlmsgHdrlen⟩ ::
        if nlmsg.nlmsgType = nlmsgNoop ∨ nlmsg.nlmsgType = nlmsgError then []
        else if nlmsg.nlmsgType = nlmsgDone ∨ nlmsg.nlmsgFlags &&& nlmFMulti ≠ 0 then
          if nlmsgHdrlen < len then
            [⟨s.pNlmsg + nlmsgHdrlen, len - nlmsgHdrlen⟩, ⟨s.offs, len - nlmsgHdrlen⟩]
          else []
        else []
    else []
  else []

/-- A round of the connector loop: the length field, the header, and the ack and the data that are
moved. -/
def cnAccesses (w : WordSize) (pReq : CnMsg) (s : CnState) : List Access :=
  ⟨s.pCnmsg + 16, 2⟩ :: if cnmsgOk w s then
    let cnmsg := cnMsgHdrAt s.recvBuf s.pCnmsg
    ⟨s.pCnmsg, sizeofCnMsg⟩ :: if cnFltr pReq cnmsg = 0 ∧ 0 < cnmsg.len.toNat then
      [⟨s.offs, 4⟩, ⟨s.pCnmsg + sizeofCnMsg, cnmsg.len.toNat⟩, ⟨s.offs + 4, cnmsg.len.toNat⟩]
    else []
  else []

/-- A round of the w1 loop, apart from the callback: the length field, the ack, the header, and
the data for the debug log. -/
def w1Accesses {σ : Type*} (w : WordSize) (s : W1State σ) : List Access :=
  ⟨s.pW1msg + 2, 2⟩ :: if ackW1msgOk w s then
    [⟨s.pAck, 4⟩, ⟨s.pW1msg, sizeofW1NetlinkMsg⟩,
      ⟨s.pW1msg + sizeofW1NetlinkMsg, min (w1MsgLenAt s.recvBuf s.pW1msg) 32⟩]
  else []

/-- `__COPY_LIST_ELEMS` from the data of a record. -/
def copyAccesses (w : WordSize) (data len : ℕ) (s : ListCbDta) : List Access :=
  if 0 < len / s.elemSz ∧ s.nElems < s.maxElems then
    [⟨data, s.elemSz * min (len / s.elemSz) (s.maxElems - s.nElems) % 2 ^ w.bits⟩]
  else []

/-- A round of the loop of `search_slavs_cb`. -/
def searchAccesses (w : WordSize) (m : Mem UInt8) (s : CmdCursor × ListCbDta) : List Access :=
  ⟨s.1.pW1cmd + 2, 2⟩ :: if w1cmdOk m s.1 then
    ⟨s.1.pW1cmd, sizeofW1NetlinkCmd⟩ :: if m s.1.pW1cmd ≠ s.2.srchCmd then []
    else copyAccesses w (s.1.pW1cmd + sizeofW1NetlinkCmd) (w1CmdLenAt m s.1.pW1cmd) s.2
  else []

/-- A round of the loop of `w1msg_exec_cb`: nothing if it is left at the label, and the data of a
w1 command that is copied. -/
def execAccesses (cfg : Config) (m : Mem UInt8) (w1msg : W1NetlinkMsg) (isStatus : Bool)
    (s : ExecSt) : List Access :=
  if s.atLabel ∧ (s.dta.w1msg.nCmds ≤ s.dta.nPrcCmds ∨ isStatus ∧ w1msg.status ≠ 0) then []
  else
    ⟨s.cur.pW1cmd + 2, 2⟩ :: if w1cmdOk m s.cur then
      let len := w1CmdLenAt m s.cur.pW1cmd
      ⟨s.cur.pW1cmd, sizeofW1NetlinkCmd⟩ ::
        if m s.cur.pW1cmd = convertCmdType cfg s.dta.cur.type ∧
            s.dta.cur.type.isRespRequired ∧ 0 < len ∧ len = s.dta.cur.len ∧ s.dta.cur.pData ≠ 0
          then [⟨s.cur.pW1cmd + sizeofW1NetlinkCmd, len⟩]
        else []
    else []

/-! ### The callbacks -/

/-- The callbacks stay within the buffer, called on the w1 message at an address. -/
structure CallbacksInside (cfg : Config) (m : Mem UInt8) (p : ℕ) : Prop where
  masters : ∀ dta : ListCbDta,
    ∀ a ∈ copyAccesses cfg.word (p + sizeofW1NetlinkMsg) (w1MsgLenAt m p) dta, a.Inside
  search : ∀ (ret : W1msgMoreStat) (dta : ListCbDta) (s : CmdCursor × ListCbDta),
    Loop.Reached (searchStep cfg.word ret m) (cmdCursorAt m p, dta) s →
    ∀ a ∈ searchAccesses cfg.word m s, a.Inside
  exec : ∀ (isStatus : Bool) (dta : W1msgExecCbDta) (s : ExecSt),
    Loop.Reached (execStep cfg m (w1MsgAt m p) isStatus) ⟨true, cmdCursorAt m p, dta⟩ s →
    ∀ a ∈ execAccesses cfg m (w1MsgAt m p) isStatus s, a.Inside

section Callbacks

variable {cfg : Config} {w : WordSize} {m : Mem UInt8} {p : ℕ}

/-- What is copied is part of the data. -/
theorem inside_of_mem_copyAccesses {data len : ℕ} {s : ListCbDta}
    (h : data + len ≤ maxW1NetlinkMsgSz) : ∀ a ∈ copyAccesses w data len s, a.Inside := by
  rw [copyAccesses]
  split
  · intro a ha
    obtain rfl := List.mem_singleton.mp ha
    have hcopy : s.elemSz * min (len / s.elemSz) (s.maxElems - s.nElems) ≤ len :=
      (Nat.mul_le_mul_left _ (min_le_left _ _)).trans (Nat.mul_div_le len s.elemSz)
    have hmod := Nat.mod_le (s.elemSz * min (len / s.elemSz) (s.maxElems - s.nElems)) (2 ^ w.bits)
    exact (Nat.add_le_add_left (hmod.trans hcopy) data).trans h
  · nofun

/-- The commands end at an address. -/
def CmdCursor.EndsAt (c : CmdCursor) (e : ℕ) : Prop := c.pW1cmd + c.dtaLen = e

/-- A round of the loop of `search_slavs_cb`: its test reads a length field that may lie behind
the commands, for which there is room. -/
theorem searchAccesses_inside {s : CmdCursor × ListCbDta} {e : ℕ} (hs : s.1.EndsAt e)
    (he : e + sizeofW1NetlinkCmd ≤ maxW1NetlinkMsgSz) : ∀ a ∈ searchAccesses w m s, a.Inside := by
  rw [CmdCursor.EndsAt] at hs
  rw [searchAccesses, List.forall_mem_cons]
  constructor
  · rw [sizeofW1NetlinkCmd] at he
    rw [Access.Inside]
    dsimp only
    omega
  split
  · rename_i hok
    rw [w1cmdOk, decide_eq_true_eq] at hok
    rw [List.forall_mem_cons]
    constructor
    · rw [Access.Inside]
      dsimp only
      omega
    · split
      · exact List.forall_mem_nil _
      · exact inside_of_mem_copyAccesses (by omega)
  · exact List.forall_mem_nil _

/-- A round of the loop of `w1msg_exec_cb`, in the same way; what it copies is part of the data of
a w1 command. -/
theorem execAccesses_inside {w1msg : W1NetlinkMsg} {isStatus : Bool} {s : ExecSt} {e : ℕ}
    (hs : s.cur.EndsAt e) (he : e + sizeofW1NetlinkCmd ≤ maxW1NetlinkMsgSz) :
    ∀ a ∈ execAccesses cfg m w1msg isStatus s, a.Inside := by
  rw [CmdCursor.EndsAt] at hs
  rw [execAccesses]
  split
  · exact List.forall_mem_nil _
  rw [List.forall_mem_cons]
  constructor
  · rw [sizeofW1NetlinkCmd] at he
    rw [Access.Inside]
    dsimp only
    omega
  split
  · rename_i hok
    rw [w1cmdOk, decide_eq_true_eq] at hok
    dsimp only
    rw [List.forall_mem_cons]
    constructor
    · rw [Access.Inside]
      dsimp only
      omega
    · split
      · rw [List.forall_mem_singleton, Access.Inside]
        dsimp only
        omega
      · exact List.forall_mem_nil _
  · exact List.forall_mem_nil _

/-- With room for the header of a w1 command behind the message the callbacks stay within the
buffer. -/
theorem callbacksInside (cfg : Config) (m : Mem UInt8) {p : ℕ}
    (h : p + sizeofW1NetlinkMsg + w1MsgLenAt m p + sizeofW1NetlinkCmd ≤ maxW1NetlinkMsgSz) :
    CallbacksInside cfg m p where
  masters _ := inside_of_mem_copyAccesses (by omega)
  search ret dta s hs := by
    have hstep : ∀ t t', t.1.EndsAt (p + sizeofW1NetlinkMsg + w1MsgLenAt m p) →
        searchStep cfg.word ret m t = .inl t' →
        t'.1.EndsAt (p + sizeofW1NetlinkMsg + w1MsgLenAt m p) := by
      intro t t' ht hstep
      obtain ⟨hok, hnext⟩ := searchStep_inl _ m hstep
      rw [CmdCursor.EndsAt, hnext, end_w1cmdNext hok]
      exact ht
    have hstart : (cmdCursorAt m p, dta).1.EndsAt _ := rfl
    exact searchAccesses_inside (Loop.Reached.invariant hstep hstart hs) h
  exec isStatus dta s hs := by
    have hstep : ∀ t t', t.cur.EndsAt (p + sizeofW1NetlinkMsg + w1MsgLenAt m p) →
        execStep cfg m (w1MsgAt m p) isStatus t = .inl t' →
        t'.cur.EndsAt (p + sizeofW1NetlinkMsg + w1MsgLenAt m p) := by
      intro t t' ht hstep
      rcases execStep_inl hstep with ⟨hok, hnext⟩ | ⟨hcur, -⟩
      · rw [CmdCursor.EndsAt, hnext, end_w1cmdNext hok]
        exact ht
      · rw [CmdCursor.EndsAt, hcur]
        exact ht
    have hstart : (ExecSt.mk true (cmdCursorAt m p) dta).cur.EndsAt _ := rfl
    exact execAccesses_inside (Loop.Reached.invariant hstep hstart hs) h

end Callbacks

/-! ### The parse loops -/

/-- What the parse loops and the callbacks read and write on a datagram is within the buffer. -/
structure StaysInside {σ : Type*} (cfg : Config) (pReq : CnMsg) (recvCb : RecvW1msgCb σ)
    (buf : Mem UInt8) (bs : List UInt8) (ms : W1msgMoreStat) (priv : σ) : Prop where
  netlink : ∀ s, Loop.Reached nlStep (nlStart buf bs) s → ∀ a ∈ nlAccesses s, a.Inside
  connector : ∀ fuel nl, Loop.run nlStep fuel (nlStart buf bs) = some (.ok nl) →
    ∀ s, Loop.Reached (cnStep cfg.word pReq) (cnStart nl) s →
    ∀ a ∈ cnAccesses cfg.word pReq s, a.Inside
  w1 : ∀ fuel nl cn, Loop.run nlStep fuel (nlStart buf bs) = some (.ok nl) →
    Loop.run (cnStep cfg.word pReq) fuel (cnStart nl) = some cn →
    ∀ s, Loop.Reached (w1Step cfg.word pReq recvCb) (w1Start cn ms priv) s →
    (∀ a ∈ w1Accesses cfg.word s, a.Inside) ∧
      (ackW1msgOk cfg.word s = true → CallbacksInside cfg s.recvBuf s.pW1msg)

/-- The room that the whole connector messages at the front of a payload take. -/
def cnChainSize (payload : List UInt8) : ℕ :=
  ((cnParser.chain payload).map fun c => sizeofCnMsg + c.data.length).sum

/-- Behind the whole connector messages of a datagram there is room for one more length field. -/
def CnRoom (bs : List UInt8) : Prop :=
  ∀ payload, nlChain (bs.take maxW1NetlinkMsgSz) = some (.ok payload) →
    cnChainSize payload + 18 ≤ maxW1NetlinkMsgSz

section Loops

variable {σ : Type*} {w : WordSize} {pReq : CnMsg} {recvCb : RecvW1msgCb σ} {buf : Mem UInt8}
  {bs : List UInt8}

/-- A payload leaves room for a netlink header: every message of the chain gives up its own header
when it is moved to the front. -/
theorem length_nlChain_add_le {payload : List UInt8} (h : nlChain bs = some (.ok payload)) :
    payload = [] ∨ payload.length + nlmsgHdrlen ≤ bs.length := by
  induction bs using nlChain.induct generalizing payload with
  | case1 bs hok hnoop => simp [nlChain, hok, hnoop] at h
  | case2 bs hok hnoop herr => simp [nlChain, hok, herr] at h
  | case3 bs hok hnoop herr hdone =>
    rw [nlChain, if_pos hok, if_neg hnoop, if_neg herr, if_pos hdone] at h
    cases h
    right
    rw [List.length_drop, List.length_take]
    omega
  | case4 bs hok hnoop herr hdone hmulti ih =>
    rw [nlChain, if_pos hok, if_neg hnoop, if_neg herr, if_neg hdone, if_pos hmulti] at h
    rcases hrest : nlChain (bs.drop (nlmsgAlign (nlLen bs))) with _ | _ | rest
    · simp [hrest] at h
    · simp [hrest, Except.map] at h
    · have halign := le_nlmsgAlign (nlLen bs)
      simp only [hrest, Option.map_some, Except.map, Option.some.injEq, Except.ok.injEq] at h
      right
      rw [← h, List.length_append, List.length_drop, List.length_take]
      rcases ih hrest with rfl | hle
      · rw [List.length_nil]
        omega
      · rw [List.length_drop] at hle
        omega
  | case5 bs hok hnoop herr hdone hmulti =>
    rw [nlChain, if_pos hok, if_neg hnoop, if_neg herr, if_neg hdone, if_neg hmulti] at h
    simp at h
  | case6 bs hok =>
    rw [nlChain, if_neg hok] at h
    cases h
    exact Or.inl rfl

/-- The payloads at the front of the buffer leave room for a netlink header. -/
theorem offs_add_le_of_run {fuel : ℕ} {nl : NlState}
    (h : Loop.run nlStep fuel (nlStart buf bs) = some (.ok nl)) :
    nl.offs + nlmsgHdrlen ≤ maxW1NetlinkMsgSz := by
  have htake : (bs.take maxW1NetlinkMsgSz).length ≤ maxW1NetlinkMsgSz := List.length_take_le _ _
  have hoffs : (nl.recvBuf.read 0 nl.offs).length = nl.offs := Mem.length_read ..
  rcases length_nlChain_add_le (nlChain_of_run h) with hnil | hle
  · rw [hnil, List.length_nil] at hoffs
    rw [← hoffs]
    decide
  · omega

/-- The invariant of the netlink loop. -/
def NlInside (s : NlState) : Prop :=
  s.offs ≤ s.pNlmsg ∧ s.pNlmsg + s.dtaLen ≤ maxW1NetlinkMsgSz

theorem nlInside_nlStart (buf : Mem UInt8) (bs : List UInt8) : NlInside (nlStart buf bs) := by
  have htake : (bs.take maxW1NetlinkMsgSz).length ≤ maxW1NetlinkMsgSz := List.length_take_le _ _
  refine ⟨le_rfl, ?_⟩
  show ((0 : ℕ) : ℤ) + ((bs.take maxW1NetlinkMsgSz).length : ℤ) ≤ (maxW1NetlinkMsgSz : ℕ)
  omega

/-- A round of the netlink loop takes a message off the front of what is left, and moves its
payload to a place before it. -/
theorem nlInside_nlStep {s s' : NlState} (h : NlInside s) (hs : nlStep s = .inl s') :
    NlInside s' := by
  obtain ⟨hoffs, hend⟩ := h
  have halign := le_nlmsgAlign (nlmsghdrAt s.recvBuf s.pNlmsg).nlmsgLen.toNat
  rw [nlStep] at hs
  split at hs
  · dsimp only at hs
    split at hs
    · cases hs
      exact ⟨hoffs, hend⟩
    · split at hs
      · cases hs
      · split at hs
        · split at hs
          · cases hs
          · cases hs
            refine ⟨?_, ?_⟩
            · dsimp only
              rw [nlCompact_offs, nlCompact_pNlmsg]
              omega
            · dsimp only
              rw [nlCompact_dtaLen, nlCompact_pNlmsg]
              omega
        · cases hs
  · cases hs

/-- What a round reads and writes: the test looks at a length field only if there is room for a
header, which is the one test of the three loops that does. -/
theorem nlAccesses_inside {s : NlState} (h : NlInside s) : ∀ a ∈ nlAccesses s, a.Inside := by
  obtain ⟨hoffs, hend⟩ := h
  rw [nlAccesses]
  split
  swap
  · nofun
  rename_i hhdr
  rw [nlmsgHdrlen] at hhdr ⊢
  rw [List.forall_mem_cons]
  refine ⟨by rw [Access.Inside]; dsimp only; omega, ?_⟩
  split
  swap
  · nofun
  rename_i hok
  obtain ⟨hlen, -⟩ : (nlmsghdrAt s.recvBuf s.pNlmsg).nlmsgLen.toNat ≤ s.dtaLen ∧ True := by
    simp only [nlmsgOk, Bool.and_eq_true, decide_eq_true_eq] at hok
    exact ⟨hok.2, trivial⟩
  dsimp only
  rw [List.forall_mem_cons]
  refine ⟨by rw [Access.Inside]; dsimp only; omega, ?_⟩
  split
  · nofun
  split
  · split
    · rw [List.forall_mem_cons, List.forall_mem_singleton, Access.Inside, Access.Inside]
      dsimp only
      omega
    · nofun
  · nofun

/-- What the whole messages of a buffer take, when there is one at the front. -/
theorem cnChainSize_read {m : Mem UInt8} {p l : ℕ}
    (h : sizeofCnMsg + (cnMsgHdrAt m p).len.toNat ≤ l) :
    cnChainSize (m.read p l) = sizeofCnMsg + (cnMsgHdrAt m p).len.toNat +
      cnChainSize (m.read (p + (sizeofCnMsg + (cnMsgHdrAt m p).len.toNat))
        (l - (sizeofCnMsg + (cnMsgHdrAt m p).len.toNat))) := by
  have hparse := cnParser_read m p l
  rw [if_pos h] at hparse
  have hlen : (cnMsgAt m p).data.length = (cnMsgHdrAt m p).len.toNat := Mem.length_read ..
  rw [cnChainSize, RecordParser.chain_of_some hparse, List.map_cons, List.sum_cons, hlen]
  rfl

theorem cnChainSize_read_of_not {m : Mem UInt8} {p l : ℕ}
    (h : ¬ sizeofCnMsg + (cnMsgHdrAt m p).len.toNat ≤ l) : cnChainSize (m.read p l) = 0 := by
  have hparse := cnParser_read m p l
  rw [if_neg h] at hparse
  rw [cnChainSize, RecordParser.chain_of_none hparse]
  rfl

/-- The invariant of the connector loop: the data end at `stop`, and the whole messages at
`size`. -/
structure CnInside (stop size : ℕ) (s : CnState) : Prop where
  offs : s.offs ≤ s.pCnmsg
  nonneg : 0 ≤ s.dtaLen
  stop : s.pCnmsg + s.dtaLen.toNat = stop
  size : s.pCnmsg + cnChainSize (s.recvBuf.read s.pCnmsg s.dtaLen.toNat) = size

variable {stop size : ℕ}

theorem CnInside.cnmsgOk_iff {s : CnState} (h : CnInside stop size s)
    (hstop : stop ≤ maxW1NetlinkMsgSz) : cnmsgOk w s = true ↔
      sizeofCnMsg + (cnMsgHdrAt s.recvBuf s.pCnmsg).len.toNat ≤ s.dtaLen.toNat := by
  have hsz : maxW1NetlinkMsgSz = 4112 := rfl
  have hend := h.stop
  have hsize := w.sizeT_natCast (n := s.dtaLen.toNat) (by omega)
  rw [Int.toNat_of_nonneg h.nonneg] at hsize
  rw [cnmsgOk, hsize, decide_eq_true_eq]

/-- A round of the connector loop takes a whole message off the front, so that the data and the
whole messages end where they did. -/
theorem CnInside.step {s s' : CnState} (h : CnInside stop size s)
    (hstop : stop ≤ maxW1NetlinkMsgSz) (hs : cnStep w pReq s = .inl s') :
    CnInside stop size s' := by
  rw [cnStep] at hs
  split at hs
  swap
  · cases hs
  rename_i hok
  have hle := (h.cnmsgOk_iff hstop).mp hok
  obtain ⟨cnmsg, hmsg⟩ : ∃ cnmsg, cnmsg = cnMsgHdrAt s.recvBuf s.pCnmsg := ⟨_, rfl⟩
  have hchain := cnChainSize_read hle
  rw [← hmsg] at hs hle hchain
  dsimp only at hs
  obtain ⟨t, ht⟩ : ∃ t, t = if cnFltr pReq cnmsg = 0 ∧ 0 < cnmsg.len.toNat
    then cnCompact s cnmsg else s := ⟨_, rfl⟩
  obtain ⟨hptr, hdta, hoffs, -, hbehind⟩ :=
    cnKeep_spec cnmsg h.offs (cnFltr pReq cnmsg = 0 ∧ 0 < cnmsg.len.toNat)
  rw [← ht] at hs hptr hdta hoffs hbehind
  rw [hptr, hdta, Nat.add_assoc] at hs
  obtain rfl := Sum.inl.inj hs
  have hnonneg := h.nonneg
  have hend := h.stop
  have hsize := h.size
  have hnat : (s.dtaLen - ((sizeofCnMsg + cnmsg.len.toNat : ℕ) : ℤ)).toNat =
      s.dtaLen.toNat - (sizeofCnMsg + cnmsg.len.toNat) := by omega
  refine ⟨hoffs, ?_, ?_, ?_⟩
  · dsimp only
    omega
  · dsimp only
    omega
  · dsimp only
    rw [hnat, hbehind]
    omega

/-- The loop is left behind the whole messages. -/
theorem CnInside.exit {s r : CnState} (h : CnInside stop size s)
    (hstop : stop ≤ maxW1NetlinkMsgSz) (hs : cnStep w pReq s = .inr r) : s.pCnmsg = size := by
  rw [cnStep] at hs
  split at hs
  · cases hs
  · rename_i hok
    have hsize := h.size
    rw [h.cnmsgOk_iff hstop] at hok
    rw [cnChainSize_read_of_not hok] at hsize
    exact hsize

theorem CnInside.accesses {s : CnState} (h : CnInside stop size s)
    (hstop : stop + nlmsgHdrlen ≤ maxW1NetlinkMsgSz) (hsize : size + 18 ≤ maxW1NetlinkMsgSz) :
    ∀ a ∈ cnAccesses w pReq s, a.Inside := by
  have hle := h.size
  have hoffs := h.offs
  have hend := h.stop
  rw [cnAccesses, List.forall_mem_cons]
  refine ⟨by rw [Access.Inside]; dsimp only; omega, ?_⟩
  split
  swap
  · nofun
  rename_i hok
  rw [h.cnmsgOk_iff (by omega), sizeofCnMsg] at hok
  dsimp only
  rw [sizeofCnMsg, List.forall_mem_cons]
  refine ⟨by rw [Access.Inside]; dsimp only; omega, ?_⟩
  split
  · simp only [List.forall_mem_cons, Access.Inside]
    refine ⟨by omega, by omega, by omega, nofun⟩
  · nofun

/-- The invariant of the w1 loop. -/
structure W1Inside (stop : ℕ) (s : W1State σ) : Prop where
  pW1msg : s.pW1msg = s.pAck + 4
  nonneg : 0 ≤ s.dtaLen
  stop : s.pAck + s.dtaLen.toNat = stop

theorem W1Inside.ackW1msgOk_iff {s : W1State σ} (h : W1Inside stop s)
    (hstop : stop ≤ maxW1NetlinkMsgSz) : ackW1msgOk w s = true ↔
      4 + sizeofW1NetlinkMsg + w1MsgLenAt s.recvBuf s.pW1msg ≤ s.dtaLen.toNat := by
  have hsz : maxW1NetlinkMsgSz = 4112 := rfl
  have hend := h.stop
  have hsize := w.sizeT_natCast (n := s.dtaLen.toNat) (by omega)
  rw [Int.toNat_of_nonneg h.nonneg] at hsize
  rw [ackW1msgOk, hsize, decide_eq_true_eq]

/-- A round of the w1 loop takes an ack and a whole w1 message off the front. -/
theorem W1Inside.step {s s' : W1State σ} (h : W1Inside stop s)
    (hstop : stop ≤ maxW1NetlinkMsgSz) (hs : w1Step w pReq recvCb s = .inl s') :
    W1Inside stop s' := by
  rw [w1Step] at hs
  split at hs
  swap
  · cases hs
  rename_i hok
  have hle := (h.ackW1msgOk_iff hstop).mp hok
  have hlen : (w1MsgAt s.recvBuf s.pW1msg).len = w1MsgLenAt s.recvBuf s.pW1msg :=
    Mem.length_read ..
  have hptr := h.pW1msg
  have hend := h.stop
  rw [← hlen] at hle
  obtain rfl := Sum.inl.inj hs
  refine ⟨?_, ?_, ?_⟩
  · dsimp only
    omega
  · dsimp only
    omega
  · dsimp only
    omega

theorem W1Inside.accesses {s : W1State σ} (h : W1Inside stop s)
    (hstop : stop + nlmsgHdrlen ≤ maxW1NetlinkMsgSz) : ∀ a ∈ w1Accesses w s, a.Inside := by
  have hptr := h.pW1msg
  have hend := h.stop
  rw [nlmsgHdrlen] at hstop
  rw [w1Accesses, List.forall_mem_cons]
  refine ⟨by rw [Access.Inside]; dsimp only; omega, ?_⟩
  split
  · rename_i hok
    rw [h.ackW1msgOk_iff (by omega)] at hok
    simp only [List.forall_mem_cons, Access.Inside]
    refine ⟨by omega, by omega, by omega, List.forall_mem_nil _⟩
  · exact List.forall_mem_nil _

theorem W1Inside.callbacks {cfg : Config} {s : W1State σ} (h : W1Inside stop s)
    (hstop : stop + nlmsgHdrlen ≤ maxW1NetlinkMsgSz) (hok : ackW1msgOk cfg.word s = true) :
    CallbacksInside cfg s.recvBuf s.pW1msg := by
  have hptr := h.pW1msg
  have hend := h.stop
  rw [nlmsgHdrlen] at hstop
  rw [h.ackW1msgOk_iff (by omega)] at hok
  refine callbacksInside cfg s.recvBuf ?_
  rw [sizeofW1NetlinkCmd]
  omega

end Loops

/-! ### A datagram -/

section Datagram

variable {σ : Type*} {cfg : Config} {pReq : CnMsg} {recvCb : RecvW1msgCb σ} {buf : Mem UInt8}
  {bs : List UInt8} {ms : W1msgMoreStat} {priv : σ}

theorem cnInside_cnStart (nl : NlState) :
    CnInside nl.offs (cnChainSize (nl.recvBuf.read 0 nl.offs)) (cnStart nl) where
  offs := le_rfl
  nonneg := Int.natCast_nonneg _
  stop := Nat.zero_add _
  size := Nat.zero_add _

theorem w1Inside_w1Start (cn : CnState) (ms : W1msgMoreStat) (priv : σ) :
    W1Inside cn.offs (w1Start cn ms priv) where
  pW1msg := rfl
  nonneg := Int.natCast_nonneg _
  stop := Nat.zero_add _

/-- The netlink loop leaves on a datagram that has a payload. -/
theorem exists_run_of_nlChain (buf : Mem UInt8) {payload : List UInt8}
    (h : nlChain (bs.take maxW1NetlinkMsgSz) = some (.ok payload)) :
    ∃ fuel nl, Loop.run nlStep fuel (nlStart buf bs) = some (.ok nl) ∧
      nl.recvBuf.read 0 nl.offs = payload := by
  have hrun := run_nlStep (nlRel_nlStart buf bs) (Nat.lt_succ_self _)
  rw [nlRefOut_nil, h] at hrun
  obtain ⟨r, hr, hmap⟩ := Option.map_eq_some_iff.mp hrun
  rcases r with e | nl
  · exact nomatch hmap
  · exact ⟨_, nl, hr, Except.ok.inj hmap⟩

/-- The last test of the connector loop reads behind the whole messages. -/
theorem cnRoom_of_staysInside (h : StaysInside cfg pReq recvCb buf bs ms priv) : CnRoom bs := by
  intro payload hpay
  obtain ⟨fuel, nl, hnl, rfl⟩ := exists_run_of_nlChain buf hpay
  have hoffs := offs_le_of_run hnl
  obtain ⟨cn, hcn, -⟩ := run_cnStep cfg.word pReq (cnRel_cnStart hoffs) (Nat.lt_succ_self _)
  obtain ⟨t, ht, hexit⟩ := Loop.exists_reached_of_run hcn
  have hstep : ∀ s s', CnInside nl.offs (cnChainSize (nl.recvBuf.read 0 nl.offs)) s →
      cnStep cfg.word pReq s = .inl s' →
      CnInside nl.offs (cnChainSize (nl.recvBuf.read 0 nl.offs)) s' := fun _ _ hs =>
    hs.step hoffs
  have hin := Loop.Reached.invariant hstep (cnInside_cnStart nl) ht
  have hread := h.connector fuel nl hnl t ht ⟨t.pCnmsg + 16, 2⟩ List.mem_cons_self
  rwa [hin.exit hoffs hexit] at hread

/-- With room for one more length field nothing else leaves the buffer: the netlink loop stays
within what was received, and the frames of the connector loop take up less than the payloads
did. -/
theorem staysInside_of_cnRoom (cfg : Config) (pReq : CnMsg) (recvCb : RecvW1msgCb σ)
    (buf : Mem UInt8) (ms : W1msgMoreStat) (priv : σ) (h : CnRoom bs) :
    StaysInside cfg pReq recvCb buf bs ms priv where
  netlink s hs := nlAccesses_inside
    (Loop.Reached.invariant (fun _ _ => nlInside_nlStep) (nlInside_nlStart buf bs) hs)
  connector fuel nl hnl s hs := by
    have hstep : ∀ s s', CnInside nl.offs (cnChainSize (nl.recvBuf.read 0 nl.offs)) s →
        cnStep cfg.word pReq s = .inl s' →
        CnInside nl.offs (cnChainSize (nl.recvBuf.read 0 nl.offs)) s' := fun _ _ hs =>
      hs.step (offs_le_of_run hnl)
    have hin := Loop.Reached.invariant hstep (cnInside_cnStart nl) hs
    exact hin.accesses (offs_add_le_of_run hnl) (h _ (nlChain_of_run hnl))
  w1 fuel nl cn hnl hcn s hs := by
    have hoffs := offs_le_of_run_cn (offs_le_of_run hnl) hcn
    have hstop : cn.offs + nlmsgHdrlen ≤ maxW1NetlinkMsgSz :=
      (Nat.add_le_add_right hoffs _).trans (offs_add_le_of_run hnl)
    have hstep : ∀ s s', W1Inside cn.offs s → w1Step cfg.word pReq recvCb s = .inl s' →
        W1Inside cn.offs s' := fun _ _ hs => hs.step ((Nat.le_add_right _ _).trans hstop)
    have hin := Loop.Reached.invariant hstep (w1Inside_w1Start cn ms priv) hs
    exact ⟨hin.accesses hstop, hin.callbacks hstop⟩

/-- On every datagram all that is read and written is within the buffer, exactly if behind the
whole connector messages of it there is room for one more length field. -/
theorem recvStaysInside_iff (cfg : Config) (pReq : CnMsg) (recvCb : RecvW1msgCb σ)
    (buf : Mem UInt8) (bs : List UInt8) (ms : W1msgMoreStat) (priv : σ) :
    StaysInside cfg pReq recvCb buf bs ms priv ↔ CnRoom bs :=
  ⟨cnRoom_of_staysInside, staysInside_of_cnRoom cfg pReq recvCb buf ms priv⟩

end Datagram

/-! ### A full buffer -/

/-- A connector message of 4096 bytes, with one w1 message in it. -/
def fullCnMsg : CnRecords where
  idx := cnW1Idx
  val := cnW1Val
  seq := 7
  ack := 0
  flags := 0
  recs := [⟨w1ListMasters, 0, 0, List.replicate 4064 0, by rw [List.length_replicate]; omega⟩]
  data_lt := by
    rw [List.flatMap_singleton, W1NetlinkMsg.length_toBytes, W1NetlinkMsg.len,
      List.length_replicate]
    decide

theorem length_fullCnMsg : fullCnMsg.toCnMsg.data.length = 4076 := by
  show ([_].flatMap W1NetlinkMsg.toBytes).length = _
  rw [List.flatMap_singleton, W1NetlinkMsg.length_toBytes, W1NetlinkMsg.len,
    List.length_replicate]
  rfl

theorem length_flatMap_cn_lt (c : CnRecords) :
    nlmsgHdrlen + ([c].flatMap fun c => c.toCnMsg.toBytes).length < 2 ^ 32 := by
  have hdata : c.toCnMsg.data.length < 65536 := c.data_lt
  rw [List.flatMap_singleton, CnMsg.length_toBytes, nlmsgHdrlen, sizeofCnMsg]
  omega

/-- A netlink message of one connector message. -/
def doneNlMsg (c : CnRecords) : NlMsg where
  nlmsgType := nlmsgDone
  nlmsgFlags := 0
  nlmsgSeq := 0
  nlmsgPid := 0
  cns := [c]
  pad := []
  len_lt := length_flatMap_cn_lt c

theorem payload_doneNlMsg (c : CnRecords) : (doneNlMsg c).payload = c.toCnMsg.toBytes :=
  List.flatMap_singleton ..

theorem len_doneNlMsg (c : CnRecords) :
    (doneNlMsg c).len = nlmsgHdrlen + (sizeofCnMsg + c.toCnMsg.data.length) := by
  rw [NlMsg.len, payload_doneNlMsg, CnMsg.length_toBytes]

theorem cnChainSize_toBytes (c : CnMsg) : cnChainSize c.toBytes = sizeofCnMsg + c.data.length := by
  have hchain := RecordParser.chain_flatMap cnParser_recognises [c] cnParser_nil
  rw [List.flatMap_singleton] at hchain
  rw [cnChainSize, hchain, List.map_singleton, List.sum_singleton]

/-- A datagram that fills the buffer with one connector message: the test behind it reads two
bytes behind the buffer. -/
theorem recvStaysInside_full_fails :
    let pReq : CnMsg := ⟨cnW1Idx, cnW1Val, 7, ackStatVal, 0, [], Nat.zero_lt_succ _⟩
    let recvCb : RecvW1msgCb ℕ := fun n _ _ => (.noMore, n + 1)
    (doneNlMsg fullCnMsg).toBytes.length = maxW1NetlinkMsgSz ∧
      ¬ StaysInside ⟨false, .lp64⟩ pReq recvCb (fun _ => 0) (doneNlMsg fullCnMsg).toBytes
        .moreReq 0 := by
  intro pReq recvCb
  have hlen : (doneNlMsg fullCnMsg).len = maxW1NetlinkMsgSz := by
    rw [len_doneNlMsg, length_fullCnMsg]
    rfl
  constructor
  · rw [NlMsg.length_toBytes, hlen]
    rfl
  · intro h
    have hroom := cnRoom_of_staysInside h _ (nlChain_last rfl hlen.le)
    rw [payload_doneNlMsg, cnChainSize_toBytes, length_fullCnMsg] at hroom
    exact absurd hroom (by decide)

end Librasp
