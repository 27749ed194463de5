import Librasp.W1.Attribution

/-!
# The kernel's replies to a message

For a read or touch command the kernel sends a data reply, and it may follow every command with a
status reply. `CmdReplies` are the replies to one command and `KernelRun` is an execution that is
answered so, with the replies split into datagrams in any way; `Arrived` are those of them that
`recv()` has room for.

The execution succeeds and every buffer holds its data exactly when the replies that arrive can be
told apart by their codes (`w1MsgExec_delivered_iff`).

* What arrives of the replies is again in order, and a part of the replies to each command
  (`exists_arrived`). The callback is handed it command by command (`handedGroups`).
* The callback is on track at the start (`onTrack_init`), so that the rest is the subject of
  `Attribution`: success depends on the pattern of the types and arrivals alone
  (`arrivalPattern`).
* The buffers do not overlap, so that a buffer holds its data exactly when its data reply arrived
  or it held the data before (`read_replyWrites_iff`).

**Main result.** `w1MsgExec_delivered_iff`. Two reads in a row cannot be told apart
(`not_delivered_twoReads`), a read and a touch can.
-/

namespace Librasp

/-! ### The protocol -/

/-- A connector message that answers a request with one w1 message, which holds one w1
command. -/
structure IsCmdReply (req : CnMsg) (code : UInt8) (data : List UInt8) (r : CnRecords)
    (w1msg : W1NetlinkMsg) : Prop where
  reply : r.IsReply req.seq
  recs : r.recs = [w1msg]
  answers : Answers (w1Req req) w1msg
  w1cmd : ∃ w : W1NetlinkCmd, w1msg.data = w.toBytes ∧ w.cmd = code ∧ w.data = data

/-- A data reply to a command. -/
def IsDataReply (cfg : Config) (req : CnMsg) (c : W1Cmd) (data : List UInt8) (r : CnRecords) :
    Prop :=
  r.ack = req.seq + 1 ∧ ∃ w1msg, IsCmdReply req (convertCmdType cfg c.type) data r w1msg

/-- A status reply to a command: there was no error. -/
def IsStatusReply (cfg : Config) (req : CnMsg) (c : W1Cmd) (r : CnRecords) : Prop :=
  r.ack = ackStatVal ∧
    ∃ w1msg, IsCmdReply req (convertCmdType cfg c.type) [] r w1msg ∧ w1msg.status = 0

/-- The replies to a command. -/
inductive CmdReplies (cfg : Config) (req : CnMsg) (c : W1Cmd) (data : List UInt8) :
    List CnRecords → Prop
  | none (h : ¬ c.NeedsData) : CmdReplies cfg req c data []
  | status (h : ¬ c.NeedsData) {r : CnRecords} (hr : IsStatusReply cfg req c r) :
    CmdReplies cfg req c data [r]
  | data (h : c.NeedsData) (hlen : data.length = c.len) {r : CnRecords}
    (hr : IsDataReply cfg req c data r) : CmdReplies cfg req c data [r]
  | dataStatus (h : c.NeedsData) (hlen : data.length = c.len) {r r' : CnRecords}
    (hr : IsDataReply cfg req c data r) (hr' : IsStatusReply cfg req c r') :
    CmdReplies cfg req c data [r, r']

/-- An execution that the kernel answers by the protocol: its replies to the commands, in
order, are split into datagrams, and no poll times out before the last of them. -/
structure KernelRun (cfg : Config) (fuel : ℕ) (hndl : W1Hndl) (m : W1Msg)
    (mem msgBuf : Mem UInt8) (env : IoEnv) (req : CnMsg) (data : ℕ → List UInt8)
    (replies : ℕ → List CnRecords) (ds : List Datagram) : Prop where
  built : Built cfg m
  placed : ∃ base, m.Placed cfg.word base
  fuel_gt : maxW1NetlinkMsgSz < fuel
  sendOk : env.sendOk = true
  sent : ∃ bs, (w1MsgExec cfg fuel hndl m mem msgBuf env).sent = some (bs, req)
  events : ∃ es, env.events = recvEvents ds ++ .pollTimeout :: es
  answered : ∀ i < m.nCmds, CmdReplies cfg req (m.cmds i) (data i) (replies i)
  cns : ds.flatMap Datagram.cns = (List.range m.nCmds).flatMap replies
  /-- Every datagram carries a reply. -/
  nonempty : ∀ d ∈ ds, d.cns ≠ []

/-- The replies to each command that arrive: those in the part of their datagram that the
receive buffer has room for. -/
structure Arrived (n : ℕ) (replies arrived : ℕ → List CnRecords) (ds : List Datagram) : Prop where
  sublist : ∀ i < n, (arrived i).Sublist (replies i)
  received : ds.flatMap Datagram.received = (List.range n).flatMap arrived

/-- The execution succeeds, and every read or touch command finds its data in its buffer. -/
def Delivered (cfg : Config) (fuel : ℕ) (hndl : W1Hndl) (m : W1Msg) (mem msgBuf : Mem UInt8)
    (env : IoEnv) (data : ℕ → List UInt8) : Prop :=
  ∃ dta, (w1MsgExec cfg fuel hndl m mem msgBuf env).ret = some (.success, dta) ∧
    ∀ i < m.nCmds, (m.cmds i).NeedsData →
      (mem.writeAll dta.writes).read (m.cmds i).pData (m.cmds i).len = data i

/-! ### What arrives -/

/-- A part of a concatenation is a concatenation of parts. The induction is on the number of the
lists, from the last one back. -/
private theorem exists_sublists {α : Type*} {f : ℕ → List α} {n : ℕ} {l : List α}
    (h : l.Sublist ((List.range n).flatMap f)) :
    ∃ g : ℕ → List α, (∀ i < n, (g i).Sublist (f i)) ∧ l = (List.range n).flatMap g := by
  induction n generalizing l with
  | zero => exact ⟨fun _ => [], fun i hi => absurd hi (Nat.not_lt_zero i), List.sublist_nil.mp h⟩
  | succ n ih =>
    rw [List.range_succ, List.flatMap_append, List.flatMap_singleton,
      List.sublist_append_iff] at h
    obtain ⟨l₁, l₂, rfl, h₁, h₂⟩ := h
    obtain ⟨g, hg, rfl⟩ := ih h₁
    refine ⟨Function.update g n l₂, fun i hi => ?_, ?_⟩
    · rcases Nat.lt_succ_iff_lt_or_eq.mp hi with hlt | rfl
      · rw [Function.update_of_ne hlt.ne]
        exact hg i hlt
      · rw [Function.update_self]
        exact h₂
    · rw [List.range_succ, List.flatMap_append, List.flatMap_singleton, Function.update_self]
      congr 1
      refine List.flatMap_congr fun i hi => ?_
      rw [Function.update_of_ne (List.mem_range.mp hi).ne]

/-- What arrives of the replies is in order and a part of the replies to each command: a datagram
is cut off at its end, and the groups are cut where their replies were. -/
theorem exists_arrived {n : ℕ} {replies : ℕ → List CnRecords} {ds : List Datagram}
    (h : ds.flatMap Datagram.cns = (List.range n).flatMap replies) :
    ∃ arrived, Arrived n replies arrived ds := by
  have hsub : (ds.flatMap Datagram.received).Sublist ((List.range n).flatMap replies) := by
    rw [← h]
    clear h
    induction ds with
    | nil => exact List.Sublist.refl []
    | cons d ds ih =>
      refine List.Sublist.append ?_ ih
      rw [← d.received_append_cutOff]
      exact List.sublist_append_left ..
  obtain ⟨arrived, hsublist, hreceived⟩ := exists_sublists hsub
  exact ⟨arrived, hsublist, hreceived⟩

/-- Of datagrams that fit the receive buffer everything arrives. -/
theorem arrived_of_fits {n : ℕ} {replies : ℕ → List CnRecords} {ds : List Datagram}
    (h : ds.flatMap Datagram.cns = (List.range n).flatMap replies) (hfits : ∀ d ∈ ds, d.Fits) :
    Arrived n replies replies ds where
  sublist := fun i _ => List.Sublist.refl _
  received := by
    rw [← h]
    exact List.flatMap_congr fun d hd => d.received_of_fits (hfits d hd)

/-- A connector message as the callback is handed it. -/
def handedOf (r : CnRecords) : List (W1NetlinkMsg × Bool) :=
  r.recs.map fun w1msg => (w1msg, decide (r.ack = ackStatVal))

/-- What a request is handed of connector messages that all answer it. -/
theorem Datagram.arrived_eq {req : CnMsg} {d : Datagram}
    (h : ∀ r ∈ d.received, r.IsReply req.seq ∧ ∀ w1msg ∈ r.recs, Answers (w1Req req) w1msg) :
    d.arrived req = d.received.flatMap handedOf := by
  have hreply : (d.received.filter fun r => r.IsReply req.seq) = d.received :=
    List.filter_eq_self.mpr fun r hr => decide_eq_true (h r hr).1
  have hans : ((d.received.flatMap CnRecords.acked).filter fun r =>
      Answers (w1Req req) r.2) = d.received.flatMap CnRecords.acked := by
    refine List.filter_eq_self.mpr fun r hr => ?_
    obtain ⟨c, hc, hr⟩ := List.mem_flatMap.mp hr
    obtain ⟨w1msg, hw, rfl⟩ := List.mem_map.mp hr
    exact decide_eq_true ((h c hc).2 w1msg hw)
  rw [Datagram.arrived, ackedReplies, hreply, hans, List.map_flatMap]
  refine List.flatMap_congr fun c _ => ?_
  rw [CnRecords.acked, List.map_map, handedOf]
  rfl

/-! ### The replies to one command -/

/-- A data reply or a status reply to a command. -/
def IsReplyTo (cfg : Config) (req : CnMsg) (c : W1Cmd) (data : List UInt8) (r : CnRecords) :
    Prop :=
  (c.NeedsData ∧ data.length = c.len ∧ IsDataReply cfg req c data r) ∨ IsStatusReply cfg req c r

section Command

variable {cfg : Config} {req : CnMsg} {c : W1Cmd} {data : List UInt8}

theorem CmdReplies.isReplyTo {g : List CnRecords} (h : CmdReplies cfg req c data g)
    {r : CnRecords} (hr : r ∈ g) : IsReplyTo cfg req c data r := by
  cases h with
  | none => cases hr
  | status _ hst => exact .inr (List.mem_singleton.mp hr ▸ hst)
  | data hneeds hlen hd => exact .inl ⟨hneeds, hlen, List.mem_singleton.mp hr ▸ hd⟩
  | dataStatus hneeds hlen hd hst =>
    rcases List.mem_cons.mp hr with rfl | hr
    · exact .inl ⟨hneeds, hlen, hd⟩
    · exact .inr (List.mem_singleton.mp hr ▸ hst)

/-- There are at most two replies to a command. -/
theorem CmdReplies.length_le {g : List CnRecords} (h : CmdReplies cfg req c data g) :
    g.length ≤ 2 := by
  cases h <;> simp

/-- A reply to a command is a well-formed answer to the request. -/
theorem IsReplyTo.answers {r : CnRecords} (h : IsReplyTo cfg req c data r) :
    r.IsReply req.seq ∧ r.recs.length ≤ 1 ∧ ∀ w1msg ∈ r.recs, Answers (w1Req req) w1msg := by
  obtain ⟨bs, w1msg, hcmd⟩ : ∃ bs w1msg, IsCmdReply req (convertCmdType cfg c.type) bs r w1msg := by
    rcases h with ⟨-, -, -, w1msg, hcmd⟩ | ⟨-, w1msg, hcmd, -⟩
    · exact ⟨_, w1msg, hcmd⟩
    · exact ⟨_, w1msg, hcmd⟩
  refine ⟨hcmd.reply, by rw [hcmd.recs, List.length_singleton], fun x hx => ?_⟩
  rw [hcmd.recs] at hx
  exact List.mem_singleton.mp hx ▸ hcmd.answers

/-- A reply to a command as the callback is handed it: it brings the data exactly when it is
the data reply. -/
theorem IsReplyTo.handed {r : CnRecords} (h : IsReplyTo cfg req c data r)
    (hseq : req.seq + 1 ≠ ackStatVal) :
    ∃ x w, handedOf r = [x] ∧ ReplyFor cfg c x w ∧ (0 < w.len ↔ r.ack = req.seq + 1) ∧
      (0 < w.len → c.NeedsData ∧ data.length = c.len ∧ w.data = data) := by
  rcases h with ⟨hneeds, hlen, hack, w1msg, hcmd⟩ | ⟨hack, w1msg, hcmd, hstatus⟩
  · obtain ⟨w, hdata, hcode, hw⟩ := hcmd.w1cmd
    have hwlen : w.len = c.len := by rw [W1NetlinkCmd.len, hw, hlen]
    refine ⟨(w1msg, false), w, ?_, ⟨by rintro ⟨⟩, ?_, hcode, fun _ => ⟨hneeds.1, hwlen⟩⟩, ?_,
      fun _ => ⟨hneeds, hlen, hw⟩⟩
    · rw [handedOf, hcmd.recs, hack, List.map_singleton, decide_eq_false hseq]
    · rw [hdata]
      exact w.chain_toBytes
    · rw [hwlen]
      exact ⟨fun _ => hack, fun _ => hneeds.2⟩
  · obtain ⟨w, hdata, hcode, hw⟩ := hcmd.w1cmd
    have hwlen : ¬ 0 < w.len := by
      rw [W1NetlinkCmd.len, hw]
      exact Nat.lt_irrefl 0
    refine ⟨(w1msg, true), w, ?_, ⟨fun _ => hstatus, ?_, hcode, fun h => absurd h hwlen⟩, ?_,
      fun h => absurd h hwlen⟩
    · rw [handedOf, hcmd.recs, hack, List.map_singleton, decide_eq_true rfl]
    · rw [hdata]
      exact w.chain_toBytes
    · rw [hack]
      exact ⟨fun h => absurd h hwlen, fun h => absurd h.symm hseq⟩

variable {g : List CnRecords} (hg : ∀ r ∈ g, IsReplyTo cfg req c data r)
  (hseq : req.seq + 1 ≠ ackStatVal)

include hg hseq

/-- The replies to a command that are handed over. -/
theorem replyFor_handed : ∀ x ∈ g.flatMap handedOf, ∃ w, ReplyFor cfg c x w := by
  intro x hx
  obtain ⟨r, hr, hx⟩ := List.mem_flatMap.mp hx
  obtain ⟨y, w, hy, hfor, -, -⟩ := (hg r hr).handed hseq
  rw [hy] at hx
  exact ⟨w, List.mem_singleton.mp hx ▸ hfor⟩

theorem length_handed : (g.flatMap handedOf).length = g.length := by
  induction g with
  | nil => rfl
  | cons r g ih =>
    obtain ⟨y, w, hy, -⟩ := (hg r List.mem_cons_self).handed hseq
    rw [List.flatMap_cons, hy, List.length_append, ih fun r hr => hg r (List.mem_cons_of_mem _ hr)]
    exact Nat.add_comm ..

/-- What the replies to a command bring for it: the data, if the data reply is among them. -/
theorem mem_dataWrites_handed {v : ℕ × List UInt8} :
    v ∈ dataWrites c (g.flatMap handedOf) ↔
      (∃ r ∈ g, r.ack = req.seq + 1) ∧ v = (c.pData, data) := by
  induction g with
  | nil => simp [dataWrites]
  | cons r g ih =>
    obtain ⟨y, w, hy, hfor, hiff, hdata⟩ := (hg r List.mem_cons_self).handed hseq
    have hrest := ih fun r hr => hg r (List.mem_cons_of_mem _ hr)
    rw [List.flatMap_cons, hy, List.singleton_append, hfor.dataWrites_cons, List.mem_append, hrest]
    by_cases hpos : 0 < w.len
    · rw [if_pos hpos, List.mem_singleton, (hdata hpos).2.2]
      simp [hiff.mp hpos]
    · have hack : r.ack ≠ req.seq + 1 := fun h => hpos (hiff.mpr h)
      rw [if_neg hpos]
      simp [hack]

/-- The data reply brings what its command needs. -/
theorem needsData_of_dataReply (h : ∃ r ∈ g, r.ack = req.seq + 1) :
    c.NeedsData ∧ data.length = c.len := by
  obtain ⟨r, hr, hack⟩ := h
  rcases hg r hr with ⟨hneeds, hlen, -⟩ | ⟨hstat, -⟩
  · exact ⟨hneeds, hlen⟩
  · exact absurd (hack.symm.trans hstat) hseq

end Command

/-! ### The execution -/

theorem W1Msg.cmdList_eq_map (m : W1Msg) : m.cmdList = (List.range m.nCmds).map m.cmds := by
  simp [W1Msg.cmdList, Mem.read]

/-- Every command takes up some room. -/
theorem W1Msg.four_mul_nCmds_le (m : W1Msg) : 4 * m.nCmds ≤ m.cmdsSize := by
  rw [W1Msg.cmdsSize, ← m.length_cmdList]
  induction m.cmdList with
  | nil => exact le_rfl
  | cons c cs ih =>
    rw [List.length_cons, List.map_cons, List.sum_cons, W1Cmd.size]
    omega

/-- When the result of the replies becomes success. -/
theorem execRet_eq_success_iff {c : Prop} [Decidable c] {s dta : W1msgExecCbDta} :
    some (execRet (if c then .noResp else .success, s)) = some (.success, dta) ↔
      ¬ c ∧ s.status = 0 ∧ dta = s := by
  rw [execRet, Option.some.injEq, Prod.mk.injEq]
  by_cases hc : c
  · simp [hc]
  · by_cases hstatus : s.status = 0
    · simp [hc, hstatus, eq_comm]
    · simp [hc, hstatus]

section Run

variable {cfg : Config} {fuel : ℕ} {hndl : W1Hndl} {m : W1Msg} {mem msgBuf : Mem UInt8}
  {env : IoEnv} {req : CnMsg} {data : ℕ → List UInt8} {replies arrived : ℕ → List CnRecords}
  {ds : List Datagram}

/-- A message that was sent is not empty and fits `msg_buf`. -/
theorem size_of_sent (hm : m.WellFormed cfg) {base : ℕ} (hplaced : m.Placed cfg.word base)
    {bs : List UInt8} (hsent : (w1MsgExec cfg fuel hndl m mem msgBuf env).sent = some (bs, req)) :
    0 < m.nCmds ∧ sizeofW1NetlinkMsg + m.cmdsSize ≤ sizeofMsgBuf := by
  have hlen := msgLen_eq hm (hplaced.cmdsSize_lt hm.nCmds_le)
  rw [w1MsgExec] at hsent
  split at hsent
  · cases hsent
  split at hsent
  · cases hsent
  exact ⟨by omega, by omega⟩

/-- The connector ack of a data reply is not the one of a status reply, so that the two are told
apart. The sequence number of a request is below `SEQ_RANGE`. -/
theorem seq_add_one_ne (hm : m.WellFormed cfg) (hpos : 0 < m.nCmds)
    (hsize : sizeofW1NetlinkMsg + m.cmdsSize ≤ sizeofMsgBuf) {bs : List UInt8}
    (hsent : (w1MsgExec cfg fuel hndl m mem msgBuf env).sent = some (bs, req)) :
    req.seq + 1 ≠ ackStatVal := by
  obtain ⟨_, hsent'⟩ := w1MsgExec_sent hm hpos hsize fuel hndl mem msgBuf env
  rw [hsent'] at hsent
  obtain ⟨-, rfl⟩ := Prod.mk.inj (Option.some.inj hsent)
  change hndl.seq % seqRange + 1 ≠ ackStatVal
  intro heq
  have hlt : (hndl.seq % seqRange).toNat < seqRange.toNat := by
    rw [UInt32.toNat_mod]
    exact Nat.mod_lt _ (by decide)
  have hnat := congrArg UInt32.toNat heq
  have hrange : seqRange.toNat = 4294967294 := rfl
  have hack : ackStatVal.toNat = 4294967295 := rfl
  rw [UInt32.toNat_add, hack] at hnat
  change ((hndl.seq % seqRange).toNat + 1) % 2 ^ 32 = _ at hnat
  omega

/-- The replies that arrive, as the callback is handed them, command by command. -/
def handedGroups (n : ℕ) (arrived : ℕ → List CnRecords) : List (List (W1NetlinkMsg × Bool)) :=
  (List.range n).map fun i => (arrived i).flatMap handedOf

namespace KernelRun

variable (h : KernelRun cfg fuel hndl m mem msgBuf env req data replies ds)

include h

theorem size : 0 < m.nCmds ∧ sizeofW1NetlinkMsg + m.cmdsSize ≤ sizeofMsgBuf := by
  obtain ⟨_, hplaced⟩ := h.placed
  obtain ⟨_, hsent⟩ := h.sent
  exact size_of_sent h.built.wellFormed hplaced hsent

theorem seq_ne : req.seq + 1 ≠ ackStatVal := by
  obtain ⟨_, hsent⟩ := h.sent
  exact seq_add_one_ne h.built.wellFormed h.size.1 h.size.2 hsent

/-- A message has few commands, for it fits `msg_buf`. -/
theorem two_mul_nCmds_lt : 2 * m.nCmds < 2 ^ 32 := by
  have hfour := m.four_mul_nCmds_le
  have hsize := h.size.2
  have hbuf : sizeofMsgBuf = 4076 := rfl
  omega

/-- There are few datagrams, for every one carries a reply. -/
theorem length_datagrams_lt : ds.length < 2 ^ 32 := by
  have hds : ds.length ≤ (ds.flatMap Datagram.cns).length := by
    have hne := h.nonempty
    clear h
    induction ds with
    | nil => exact le_rfl
    | cons d ds ih =>
      have hpos := List.length_pos_of_ne_nil (hne d List.mem_cons_self)
      have hrest := ih fun d' hd' => hne d' (List.mem_cons_of_mem _ hd')
      rw [List.flatMap_cons, List.length_append, List.length_cons]
      omega
  have hreplies : ((List.range m.nCmds).flatMap replies).length ≤ 2 * m.nCmds := by
    rw [List.length_flatMap]
    calc ((List.range m.nCmds).map fun i => (replies i).length).sum
        ≤ ((List.range m.nCmds).map fun _ => 2).sum :=
          List.sum_le_sum fun i hi => (h.answered i (List.mem_range.mp hi)).length_le
      _ = 2 * m.nCmds := by simp [Nat.mul_comm]
  rw [h.cns] at hds
  exact lt_of_le_of_lt (hds.trans hreplies) h.two_mul_nCmds_lt

variable (harr : Arrived m.nCmds replies arrived ds)

include harr

theorem isReplyTo {i : ℕ} (hi : i < m.nCmds) :
    ∀ r ∈ arrived i, IsReplyTo cfg req (m.cmds i) (data i) r :=
  fun _ hr => (h.answered i hi).isReplyTo ((harr.sublist i hi).subset hr)

/-- What arrives of a datagram are replies to commands of the message. -/
theorem isReplyTo_of_mem {d : Datagram} (hd : d ∈ ds) {r : CnRecords} (hr : r ∈ d.received) :
    ∃ i < m.nCmds, IsReplyTo cfg req (m.cmds i) (data i) r := by
  have hmem : r ∈ ds.flatMap Datagram.received := List.mem_flatMap.mpr ⟨d, hd, hr⟩
  rw [harr.received] at hmem
  obtain ⟨i, hi, hr⟩ := List.mem_flatMap.mp hmem
  exact ⟨i, List.mem_range.mp hi, h.isReplyTo harr (List.mem_range.mp hi) r hr⟩

theorem flatMap_arrived :
    (ds.flatMap fun d => d.arrived req) = (handedGroups m.nCmds arrived).flatten := by
  have hds : (ds.flatMap fun d => d.arrived req) =
      ds.flatMap fun d => d.received.flatMap handedOf := by
    refine List.flatMap_congr fun d hd => Datagram.arrived_eq fun r hr => ?_
    obtain ⟨i, -, hr⟩ := h.isReplyTo_of_mem harr hd hr
    exact ⟨hr.answers.1, hr.answers.2.2⟩
  rw [hds, ← List.flatMap_assoc, harr.received, List.flatMap_assoc, handedGroups, List.flatMap_def]

theorem repliesFor : RepliesFor cfg (m.cmdList.drop 0) (handedGroups m.nCmds arrived) := by
  rw [List.drop_zero, m.cmdList_eq_map, RepliesFor, handedGroups, List.forall₂_map_left_iff,
    List.forall₂_map_right_iff, List.forall₂_same]
  exact fun i hi => replyFor_handed (h.isReplyTo harr (List.mem_range.mp hi)) h.seq_ne

theorem length_handed_le : (handedGroups m.nCmds arrived).flatten.length ≤ 2 * m.nCmds := by
  rw [List.length_flatten, handedGroups, List.map_map]
  calc ((List.range m.nCmds).map fun i => ((arrived i).flatMap handedOf).length).sum
      ≤ ((List.range m.nCmds).map fun _ => 2).sum := List.sum_le_sum fun i hi => by
        have hi := List.mem_range.mp hi
        rw [length_handed (h.isReplyTo harr hi) h.seq_ne]
        exact (harr.sublist i hi).length_le.trans (h.answered i hi).length_le
    _ = 2 * m.nCmds := by simp [Nat.mul_comm]

/-- What the execution returns: it succeeds when some reply arrives and the callback is left
with nothing outstanding and no error. -/
theorem ret_eq_success_iff {dta : W1msgExecCbDta} :
    (w1MsgExec cfg fuel hndl m mem msgBuf env).ret = some (.success, dta) ↔
      let p := deliver (w1msgExecCb cfg) (handedGroups m.nCmds arrived).flatten
        (.moreReq, .init m)
      (handedGroups m.nCmds arrived).flatten ≠ [] ∧ p.2.Complete ∧ dta = p.2 := by
  obtain ⟨bs, hsent⟩ := h.sent
  obtain ⟨es, hevents⟩ := h.events
  have hplain : ∀ d ∈ ds, d.IsPlain req.seq := by
    intro d hd r hr _
    obtain ⟨i, -, hr⟩ := h.isReplyTo_of_mem harr hd hr
    exact hr.answers.2.1
  have hret := w1MsgExec_ret_datagrams h.built.wellFormed h.size.1 h.size.2 h.fuel_gt h.sendOk
    hevents hsent hplain h.length_datagrams_lt
  -- the last answer asks for more exactly when something is outstanding
  have hmore : (handedGroups m.nCmds arrived).flatten ≠ [] →
      let p := deliver (w1msgExecCb cfg) (handedGroups m.nCmds arrived).flatten
        (.moreReq, .init m)
      p.2.status = 0 → (p.1 = .moreReq ↔ 0 < p.2.outstanding) := by
    intro hne
    refine deliver_moreReq_iff ?_ hne (by simp) rfl ?_
    · intro x hx
      obtain ⟨g, hg, hx⟩ := List.mem_flatten.mp hx
      obtain ⟨i, hi, rfl⟩ := List.mem_map.mp hg
      exact ⟨_, replyFor_handed (h.isReplyTo harr (List.mem_range.mp hi)) h.seq_ne x hx⟩
    · rw [show (W1msgExecCbDta.init m).cmdMsgs = 0 from rfl, Nat.zero_add]
      exact (h.length_handed_le harr).trans_lt h.two_mul_nCmds_lt
  rw [hret, h.flatMap_arrived harr, execRet_eq_success_iff]
  by_cases hempty : (handedGroups m.nCmds arrived).flatten = []
  · -- the callback is never called, and its answer is still the initial one
    rw [hempty]
    exact ⟨fun hs => absurd (Or.inr rfl) hs.1, fun hs => absurd rfl hs.1⟩
  · have hds : ds.length ≠ 0 := by
      intro hzero
      have hflat := h.flatMap_arrived harr
      rw [List.length_eq_zero_iff.mp hzero] at hflat
      exact hempty hflat.symm
    refine ⟨?_, ?_⟩
    · rintro ⟨hcode, hstatus, rfl⟩
      push Not at hcode
      exact ⟨hempty, ⟨hstatus, Nat.eq_zero_of_not_pos
        fun hpos => hcode.2 ((hmore hempty hstatus).mpr hpos)⟩, rfl⟩
    · rintro ⟨-, ⟨hstatus, hzero⟩, rfl⟩
      refine ⟨?_, hstatus, rfl⟩
      rintro (hlen | hreq)
      · exact hds hlen
      · exact absurd ((hmore hempty hstatus).mp hreq) (by omega)

end KernelRun

/-! ### The buffers -/

/-- Buffers of two commands of a message lie apart. -/
theorem W1Msg.Placed.apart {w : WordSize} {base : ℕ} (hplaced : m.Placed w base) {i j : ℕ}
    (hi : i < m.nCmds) (hj : j < m.nCmds) (hij : i ≠ j) :
    Apart (m.cmds i).pData (m.cmds i).len (m.cmds j).pData (m.cmds j).len := by
  have hpair := List.pairwise_iff_getElem.mp hplaced.buf_buf
  have hi' : i < m.cmdList.length := by simpa using hi
  have hj' : j < m.cmdList.length := by simpa using hj
  rcases Nat.lt_or_gt_of_ne hij with hlt | hgt
  · have := hpair i j hi' hj' hlt
    rwa [W1Msg.getElem_cmdList, W1Msg.getElem_cmdList] at this
  · have := hpair j i hj' hi' hgt
    rw [W1Msg.getElem_cmdList, W1Msg.getElem_cmdList] at this
    exact this.symm

/-- The writes that the replies bring, command by command. -/
def replyWrites (m : W1Msg) (arrived : ℕ → List CnRecords) : List (ℕ × List UInt8) :=
  (List.range m.nCmds).flatMap fun i => dataWrites (m.cmds i) ((arrived i).flatMap handedOf)

namespace KernelRun

variable (h : KernelRun cfg fuel hndl m mem msgBuf env req data replies ds)
  (harr : Arrived m.nCmds replies arrived ds)

include h harr

theorem mem_replyWrites {v : ℕ × List UInt8} : v ∈ replyWrites m arrived ↔
    ∃ i < m.nCmds, (∃ r ∈ arrived i, r.ack = req.seq + 1) ∧ v = ((m.cmds i).pData, data i) := by
  rw [replyWrites, List.mem_flatMap]
  constructor
  · rintro ⟨i, hi, hv⟩
    have hi := List.mem_range.mp hi
    exact ⟨i, hi, (mem_dataWrites_handed (h.isReplyTo harr hi) h.seq_ne).mp hv⟩
  · rintro ⟨i, hi, hv⟩
    exact ⟨i, List.mem_range.mpr hi,
      (mem_dataWrites_handed (h.isReplyTo harr hi) h.seq_ne).mpr hv⟩

/-- A write for another command does not touch a command's buffer: the buffers of a message that
is placed in memory do not overlap. -/
theorem replyWrites_apart {i : ℕ} (hi : i < m.nCmds) (hneeds : (m.cmds i).NeedsData)
    {v : ℕ × List UInt8} (hv : v ∈ replyWrites m arrived) :
    (v = ((m.cmds i).pData, data i) ∧ ∃ r ∈ arrived i, r.ack = req.seq + 1) ∨
      (m.cmds i).pData + (m.cmds i).len ≤ v.1 ∨ v.1 + v.2.length ≤ (m.cmds i).pData := by
  obtain ⟨j, hj, hr, rfl⟩ := (h.mem_replyWrites harr).mp hv
  obtain ⟨hneeds', hlen⟩ := needsData_of_dataReply (h.isReplyTo harr hj) h.seq_ne hr
  by_cases hij : i = j
  · subst hij
    exact .inl ⟨rfl, hr⟩
  · obtain ⟨_, hplaced⟩ := h.placed
    have hapart := hplaced.apart hi hj hij
    have hpos := hneeds.2
    have hpos' := hneeds'.2
    rw [Apart] at hapart
    dsimp only
    omega

/-- A buffer holds the data after the execution exactly when the data reply arrived or the
buffer held the data before. -/
theorem read_replyWrites_iff {i : ℕ} (hi : i < m.nCmds) (hneeds : (m.cmds i).NeedsData) :
    (mem.writeAll (replyWrites m arrived)).read (m.cmds i).pData (m.cmds i).len = data i ↔
      (∃ r ∈ arrived i, r.ack = req.seq + 1) ∨
        mem.read (m.cmds i).pData (m.cmds i).len = data i := by
  by_cases hr : ∃ r ∈ arrived i, r.ack = req.seq + 1
  · have hlen := (needsData_of_dataReply (h.isReplyTo harr hi) h.seq_ne hr).2
    have hmem : ((m.cmds i).pData, data i) ∈ replyWrites m arrived :=
      (h.mem_replyWrites harr).mpr ⟨i, hi, hr, rfl⟩
    have hread := mem.read_writeAll_of_mem hmem fun v hv => by
      rcases h.replyWrites_apart harr hi hneeds hv with ⟨rfl, -⟩ | hapart
      · exact .inl rfl
      · exact .inr (hlen ▸ hapart)
    rw [← hlen]
    exact ⟨fun _ => .inl hr, fun _ => hread⟩
  · have hapart : ∀ v ∈ replyWrites m arrived, (m.cmds i).pData + (m.cmds i).len ≤ v.1 ∨
        v.1 + v.2.length ≤ (m.cmds i).pData := fun v hv =>
      (h.replyWrites_apart harr hi hneeds hv).resolve_left fun hv => hr hv.2
    rw [mem.read_writeAll_of_disjoint hapart]
    exact ⟨.inr, fun hor => hor.resolve_left hr⟩

end KernelRun

/-! ### When the data is delivered -/

/-- The callback is on track at the start. -/
theorem onTrack_init (m : W1Msg) : OnTrack m 0 (.init m) where
  w1msg := rfl
  status := rfl
  le := le_rfl
  passed := fun j _ hj => absurd hj (Nat.not_lt_zero j)
  outstanding := by
    rw [W1msgExecCbDta.outstanding, if_neg fun h => absurd h.2 (Nat.lt_irrefl 0)]
    rfl

/-- Each command's type, and whether a reply to it arrives. -/
def arrivalPattern (m : W1Msg) (arrived : ℕ → List CnRecords) : List (W1CmdType × Bool) :=
  (List.range m.nCmds).map fun i => ((m.cmds i).type, !(arrived i).isEmpty)

theorem flatten_dataWrites_eq (m : W1Msg) (arrived : ℕ → List CnRecords) :
    (List.zipWith dataWrites (m.cmdList.drop 0) (handedGroups m.nCmds arrived)).flatten =
      replyWrites m arrived := by
  rw [List.drop_zero, m.cmdList_eq_map, handedGroups, List.zipWith_map, List.zipWith_self,
    replyWrites, List.flatMap_def]

namespace KernelRun

variable (h : KernelRun cfg fuel hndl m mem msgBuf env req data replies ds)
  (harr : Arrived m.nCmds replies arrived ds)

include h harr

theorem isEmpty_handed {i : ℕ} (hi : i < m.nCmds) :
    ((arrived i).flatMap handedOf).isEmpty = (arrived i).isEmpty := by
  have hlen := length_handed (h.isReplyTo harr hi) h.seq_ne
  rw [Bool.eq_iff_iff, List.isEmpty_iff_length_eq_zero, List.isEmpty_iff_length_eq_zero, hlen]

theorem replyPattern_eq :
    replyPattern (m.cmdList.drop 0) (handedGroups m.nCmds arrived) = arrivalPattern m arrived := by
  rw [List.drop_zero, m.cmdList_eq_map, replyPattern, handedGroups, List.zipWith_map,
    List.zipWith_self, arrivalPattern]
  refine List.map_congr_left fun i hi => ?_
  rw [h.isEmpty_handed harr (List.mem_range.mp hi)]

theorem handed_ne_nil_iff :
    (handedGroups m.nCmds arrived).flatten ≠ [] ↔ ∃ i < m.nCmds, arrived i ≠ [] := by
  rw [Ne, List.flatten_eq_nil_iff]
  constructor
  · intro hne
    by_contra hall
    push Not at hall
    refine hne fun g hg => ?_
    obtain ⟨i, hi, rfl⟩ := List.mem_map.mp hg
    rw [hall i (List.mem_range.mp hi), List.flatMap_nil]
  · rintro ⟨i, hi, hne⟩ hall
    have hnil := hall _ (List.mem_map.mpr ⟨i, List.mem_range.mpr hi, rfl⟩)
    have hempty := h.isEmpty_handed harr hi
    rw [hnil] at hempty
    exact hne (List.isEmpty_iff.mp hempty.symm)

/-- The execution succeeds exactly when some reply arrives and the replies that arrive can be told
apart. What they bring does not matter, only which codes they have. -/
theorem success_iff :
    (∃ dta, (w1MsgExec cfg fuel hndl m mem msgBuf env).ret = some (.success, dta)) ↔
      (∃ i < m.nCmds, arrived i ≠ []) ∧ Attributable none (arrivalPattern m arrived) := by
  have hlt := (h.length_handed_le harr).trans_lt h.two_mul_nCmds_lt
  have hcomplete := ((onTrack_init m).complete_iff h.built.wellFormed (h.repliesFor harr)
    (by rwa [show (W1msgExecCbDta.init m).cmdMsgs = 0 from rfl, Nat.zero_add])
    (show W1msgMoreStat.moreReq ≠ .noMore by decide)).1
  have hprev : (W1msgExecCbDta.init m).repliedType = none :=
    if_neg fun hrep => absurd hrep.2 (Nat.lt_irrefl 0)
  rw [h.replyPattern_eq harr, hprev] at hcomplete
  rw [← h.handed_ne_nil_iff harr, ← hcomplete]
  constructor
  · rintro ⟨dta, hret⟩
    obtain ⟨hne, hc, -⟩ := (h.ret_eq_success_iff harr).mp hret
    exact ⟨hne, hc⟩
  · rintro ⟨hne, hc⟩
    exact ⟨_, (h.ret_eq_success_iff harr).mpr ⟨hne, hc, rfl⟩⟩

/-- On success every data reply was written to the buffer of its own command. -/
theorem writes_of_success {dta : W1msgExecCbDta}
    (hret : (w1MsgExec cfg fuel hndl m mem msgBuf env).ret = some (.success, dta)) :
    dta.writes = replyWrites m arrived := by
  have hlt := (h.length_handed_le harr).trans_lt h.two_mul_nCmds_lt
  obtain ⟨-, hc, rfl⟩ := (h.ret_eq_success_iff harr).mp hret
  rw [((onTrack_init m).complete_iff h.built.wellFormed (h.repliesFor harr)
    (by rwa [show (W1msgExecCbDta.init m).cmdMsgs = 0 from rfl, Nat.zero_add])
    (show W1msgMoreStat.moreReq ≠ .noMore by decide)).2 hc, flatten_dataWrites_eq]
  exact List.nil_append _

end KernelRun

/-- **Replies told apart by their codes.** When the kernel answers a message by the protocol,
the execution succeeds and every buffer holds its data if and only if some reply arrives, the
replies that arrive can be told apart, and every data reply arrives (or its buffer held the data
before). -/
theorem w1MsgExec_delivered_iff
    (h : KernelRun cfg fuel hndl m mem msgBuf env req data replies ds) :
    (∃ arrived, Arrived m.nCmds replies arrived ds) ∧
      ∀ arrived, Arrived m.nCmds replies arrived ds →
        (Delivered cfg fuel hndl m mem msgBuf env data ↔
          (∃ i < m.nCmds, arrived i ≠ []) ∧ Attributable none (arrivalPattern m arrived) ∧
            ∀ i < m.nCmds, (m.cmds i).NeedsData → (∃ r ∈ arrived i, r.ack = req.seq + 1) ∨
              mem.read (m.cmds i).pData (m.cmds i).len = data i) := by
  refine ⟨exists_arrived h.cns, fun arrived harr => ?_⟩
  rw [← and_assoc, ← h.success_iff harr]
  constructor
  · rintro ⟨dta, hret, hbufs⟩
    refine ⟨⟨dta, hret⟩, fun i hi hneeds => ?_⟩
    rw [h.writes_of_success harr hret] at hbufs
    exact (h.read_replyWrites_iff harr hi hneeds).mp (hbufs i hi hneeds)
  · rintro ⟨⟨dta, hret⟩, hdata⟩
    refine ⟨dta, hret, fun i hi hneeds => ?_⟩
    rw [h.writes_of_success harr hret]
    exact (h.read_replyWrites_iff harr hi hneeds).mpr (hdata i hi hneeds)

end Run

/-! ### Two reads in a row -/

/-- A master message that reads a byte and then reads, or touches, another one. -/
def twoReads (t : W1CmdType) : W1Msg :=
  (addW1Cmd (addReadW1Cmd (w1MasterMsgInit 1 2) 100 1).2 t 200 1 0).2

/-- A w1 message with one byte of data. -/
def byteReply (code b : UInt8) : W1NetlinkMsg where
  type := w1MasterCmd
  status := 0
  id := 1
  data := (W1NetlinkCmd.mk code 0 [b] (by simp)).toBytes
  data_lt := by simp [W1NetlinkCmd.len, sizeofW1NetlinkCmd]

theorem length_byteReply (code b : UInt8) : (byteReply code b).toBytes.length = 17 := by
  simp [byteReply, W1NetlinkMsg.len, W1NetlinkCmd.len, sizeofW1NetlinkMsg, sizeofW1NetlinkCmd]

/-- The datagram with such a data reply to the first request on a handle. -/
def byteDatagram (code b : UInt8) : Datagram :=
  singleReply 0 1 (byteReply code b) (by rw [length_byteReply]; decide)

/-- The reply in it. -/
def byteCn (code b : UInt8) : CnRecords :=
  ⟨cnW1Idx, cnW1Val, 0, 1, 0, [byteReply code b], by
    rw [List.flatMap_singleton, length_byteReply]; decide⟩

/-- The first read is answered with 7, the second command with 9. -/
def byteData (i : ℕ) : List UInt8 := if i = 0 then [7] else [9]

/-- The replies, command by command. -/
def byteReplies (t : W1CmdType) (i : ℕ) : List CnRecords :=
  if i = 0 then [byteCn 0 7] else [byteCn (convertCmdType ⟨false, .lp64⟩ t) 9]

/-- The datagrams with these replies. -/
def byteDatagrams (t : W1CmdType) : List Datagram :=
  [byteDatagram 0 7, byteDatagram (convertCmdType ⟨false, .lp64⟩ t) 9]

/-- The system that sends them. -/
def byteEnv (t : W1CmdType) : IoEnv where
  sendBuf := fun _ => 0
  recvBuf := fun _ => 0
  sendOk := true
  events := recvEvents (byteDatagrams t) ++ [.pollTimeout]

/-- A byte reply is a data reply to a command that reads one byte. -/
theorem isDataReply_byteCn {req : CnMsg} (hseq : req.seq = 0)
    (htype : (w1Req req).type = w1MasterCmd) (hid : (w1Req req).mstId = 1) (c : W1Cmd) (b : UInt8) :
    IsDataReply ⟨false, .lp64⟩ req c [b] (byteCn (convertCmdType ⟨false, .lp64⟩ c.type) b) := by
  refine ⟨by rw [hseq]; rfl, _, ⟨rfl, rfl, hseq.symm⟩, rfl, ⟨htype.symm, fun _ => hid.symm, ?_⟩,
    ⟨convertCmdType ⟨false, .lp64⟩ c.type, 0, [b], by simp⟩, rfl, rfl, rfl⟩
  rw [htype]
  rintro ⟨⟩

theorem fits_byteDatagrams {t : W1CmdType} : ∀ d ∈ byteDatagrams t, d.Fits := by
  intro d hd
  rcases List.mem_pair.mp hd with rfl | rfl
  · exact fits_singleReply _ (by rw [length_byteReply]; decide)
  · exact fits_singleReply _ (by rw [length_byteReply]; decide)

/-- Two reads, or a read and a touch, answered by the protocol: a data reply to each of them, in a
datagram of its own. -/
theorem kernelRun_twoReads {t : W1CmdType} (ht : t = .read ∨ t = .touch) :
    ∃ req, req.seq = 0 ∧ KernelRun ⟨false, .lp64⟩ 4113 w1Init (twoReads t) (fun _ => 0) (fun _ => 0)
      (byteEnv t) req byteData (byteReplies t) (byteDatagrams t) := by
  have hbuilt : Built ⟨false, .lp64⟩ (twoReads t) := by
    rcases ht with rfl | rfl
    · exact .addRead (.addRead (.masterInit 1 2) 100 1) 200 1
    · exact .addTouch (.addRead (.masterInit 1 2) 100 1) 200 1
  have hsize : sizeofW1NetlinkMsg + (twoReads t).cmdsSize ≤ sizeofMsgBuf := by
    rcases ht with rfl | rfl <;> decide
  have hcmds : (twoReads t).cmdList = [⟨.read, 1, 100, 0⟩, ⟨t, 1, 200, 0⟩] := by
    rcases ht with rfl | rfl <;> rfl
  have hn : (twoReads t).nCmds = 2 := by
    rcases ht with rfl | rfl <;> rfl
  have hresp : t.isRespRequired = true := by
    rcases ht with rfl | rfl <;> rfl
  obtain ⟨hlt, hsent⟩ := w1MsgExec_sent hbuilt.wellFormed (by omega) hsize 4113 w1Init
    (fun _ => 0) (fun _ => 0) (byteEnv t)
  have hmaster : (twoReads t).wireType = w1MasterCmd := by
    rcases ht with rfl | rfl <;> rfl
  have hid : (twoReads t).wireId.toUInt32 = 1 := by
    rcases ht with rfl | rfl <;> rfl
  have hdata : ∀ c b, IsDataReply ⟨false, .lp64⟩ (requestMsg (w1Init.seq % seqRange) _ hlt) c [b]
      (byteCn (convertCmdType ⟨false, .lp64⟩ c.type) b) := fun c b =>
    isDataReply_byteCn rfl (by rw [w1Req_requestMsg]; exact hmaster)
      (by rw [w1Req_requestMsg]; exact hid) c b
  refine ⟨_, rfl, ⟨hbuilt, ⟨1000, ⟨?_, ?_, ?_, ?_⟩⟩, by decide, rfl, ⟨_, hsent⟩,
    ⟨[], rfl⟩, ?_, ?_, ?_⟩⟩
  · rcases ht with rfl | rfl <;> decide
  · rw [hcmds]
    rcases ht with rfl | rfl <;> decide
  · rw [hcmds]
    rcases ht with rfl | rfl <;> decide
  · rw [hcmds]
    rcases ht with rfl | rfl <;> decide
  · have h0 : (twoReads t).cmds 0 = ⟨.read, 1, 100, 0⟩ := by
      rcases ht with rfl | rfl <;> rfl
    have h1 : (twoReads t).cmds 1 = ⟨t, 1, 200, 0⟩ := by
      rcases ht with rfl | rfl <;> rfl
    rintro (_ | _ | i) hi
    · rw [h0]
      exact .data ⟨rfl, by decide⟩ rfl (hdata _ 7)
    · rw [h1]
      exact .data ⟨hresp, Nat.one_pos⟩ rfl (hdata _ 9)
    · omega
  · rw [hn]
    rfl
  · intro d hd
    rcases List.mem_pair.mp hd with rfl | rfl <;> exact List.cons_ne_nil _ _

/-- The replies to two reads cannot be told apart: the second byte goes to the first buffer, and
the execution fails for want of a reply to the second read. -/
theorem not_delivered_twoReads :
    ∃ req, KernelRun ⟨false, .lp64⟩ 4113 w1Init (twoReads .read) (fun _ => 0) (fun _ => 0)
        (byteEnv .read) req byteData (byteReplies .read) (byteDatagrams .read) ∧
      (∀ d ∈ byteDatagrams .read, d.Fits) ∧
      ¬ Delivered ⟨false, .lp64⟩ 4113 w1Init (twoReads .read) (fun _ => 0) (fun _ => 0)
        (byteEnv .read) byteData := by
  obtain ⟨req, -, hrun⟩ := kernelRun_twoReads (t := .read) (.inl rfl)
  refine ⟨req, hrun, fits_byteDatagrams, ?_⟩
  rintro ⟨dta, hret, -⟩
  have harr := arrived_of_fits hrun.cns fits_byteDatagrams
  obtain ⟨-, hattr⟩ := (hrun.success_iff harr).mp ⟨dta, hret⟩
  exact hattr.2.2.2.1 rfl

/-- The replies to a read and a touch can. -/
theorem w1MsgExec_delivered_readTouch :
    Delivered ⟨false, .lp64⟩ 4113 w1Init (twoReads .touch) (fun _ => 0) (fun _ => 0)
      (byteEnv .touch) byteData := by
  obtain ⟨req, hseq, hrun⟩ := kernelRun_twoReads (t := .touch) (.inr rfl)
  have harr := arrived_of_fits hrun.cns fits_byteDatagrams
  refine ((w1MsgExec_delivered_iff hrun).2 _ harr).mpr ⟨?_, ?_, ?_⟩
  · exact ⟨0, by decide, by simp [byteReplies]⟩
  · exact ⟨rfl, by decide, rfl, by decide, trivial⟩
  · intro i _ _
    left
    rw [hseq, byteReplies]
    split
    · exact ⟨_, List.mem_singleton_self _, rfl⟩
    · exact ⟨_, List.mem_singleton_self _, rfl⟩

end Librasp
