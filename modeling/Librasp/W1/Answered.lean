import Librasp.W1.Decode
import Librasp.W1.ListSearch

/-!
# Requests that are answered

Two kinds of requests that succeed as soon as they are answered without an error: a message none
of whose commands requires a reply (`w1MsgExec_optional`), and a search for slaves, which collects
the ids of the replies (`searchSlaves_found`).

* While no command requires a reply, the callback never waits for another message, and no message
  is an error to it (`Unbothered`). So nothing is asked of the answers but that there is one and
  that no status is an error.
* A search is answered by a reply with as many ids as there is room for in it (`FoundIds`); the
  reply is built here down to its bytes, and goes through the parser of the library.

The operations on all thermometers of a bus are made of these two.
-/

namespace Librasp

/-! ### Commands without replies -/

section Optional

variable {cfg : Config} {m : W1Msg}

/-- What the callback keeps while no command requires a reply. -/
structure Unbothered (m : W1Msg) (s : W1msgExecCbDta) : Prop where
  w1msg : s.w1msg = m
  status : s.status = 0

theorem Unbothered.cur {s : W1msgExecCbDta} (h : Unbothered m s)
    (hopt : ∀ i < m.nCmds, (m.cmds i).type.isRespRequired = false)
    (hlt : s.nPrcCmds < s.w1msg.nCmds) : s.cur.type.isRespRequired = false := by
  rw [h.w1msg] at hlt
  rw [W1msgExecCbDta.cur, h.w1msg]
  exact hopt _ hlt

/-- No message is an error to the callback, and none has it wait for another one. It is an
instance of the rule for the callback (`ExecRule`). -/
theorem unbothered_rule (cfg : Config)
    (hopt : ∀ i < m.nCmds, (m.cmds i).type.isRespRequired = false) {w1msg : W1NetlinkMsg}
    {isStatus : Bool} (hstatus : isStatus = true → w1msg.status = 0) :
    ExecRule cfg w1msg isStatus (fun _ => Unbothered m)
      fun ms s => ms ≠ .moreReq ∧ Unbothered m s where
  exhausted hs _ := ⟨by rintro ⟨⟩, hs⟩
  status _ _ hst hne := absurd (hstatus hst) hne
  index hs _ _ := ⟨hs.w1msg, hs.status⟩
  next hs _ _ _ _ := ⟨hs.w1msg, hs.status⟩
  unexpected hs hlt _ hresp _ := by
    rw [hs.cur hopt hlt] at hresp
    cases hresp
  badLen hs hlt _ hresp _ _ := by
    rw [hs.cur hopt hlt] at hresp
    cases hresp
  copy hs _ _ _ _ _ _ := ⟨hs.w1msg, hs.status⟩
  take hs _ _ _ := ⟨hs.w1msg, hs.status⟩
  done {s} hs hlt _ := by
    refine ⟨fun hmore => ?_, hs.w1msg, hs.status⟩
    obtain ⟨-, j, -, hj, hresp⟩ | ⟨hopt', -⟩ :=
      respAfter_fst s.w1msg (Nat.sub_le s.w1msg.nCmds (s.nPrcCmds + 1))
    · rw [hs.w1msg] at hj hresp
      rw [hopt j hj] at hresp
      cases hresp
    · rw [hopt'] at hmore
      cases hmore

/-- A run of messages without errors. The induction is on the messages; after each of them the
callback wants more if there is any, so that none is left out. -/
theorem deliver_optional (cfg : Config)
    (hopt : ∀ i < m.nCmds, (m.cmds i).type.isRespRequired = false)
    {rs : List (W1NetlinkMsg × Bool)} (hstatus : ∀ r ∈ rs, r.2 = true → r.1.status = 0)
    (hne : rs ≠ []) {ms : W1msgMoreStat} (hms : ms ≠ .noMore) {s : W1msgExecCbDta}
    (hs : Unbothered m s) :
    (deliver (w1msgExecCb cfg) rs (ms, s)).1 ≠ .moreReq ∧
      Unbothered m (deliver (w1msgExecCb cfg) rs (ms, s)).2 := by
  induction rs generalizing ms s with
  | nil => exact absurd rfl hne
  | cons r rs ih =>
    have hstep := (unbothered_rule cfg hopt (hstatus r List.mem_cons_self)).w1msgExecCb
      (s := s) ⟨hs.w1msg, hs.status⟩
    rw [deliver_cons _ _ hms]
    by_cases hno : (w1msgExecCb cfg s r.1 r.2).1 = .noMore
    · rw [deliver_noMore _ hno]
      exact hstep
    · rcases eq_or_ne rs [] with rfl | hrs
      · exact hstep
      · exact ih (fun r' hr' => hstatus r' (List.mem_cons_of_mem _ hr')) hrs hno hstep.2

/-- **Commands without replies.** A message none of whose commands requires a reply is executed with
success as soon as something answers it, and no status in the answers is an error. -/
theorem w1MsgExec_optional (hm : m.WellFormed cfg) (hpos : 0 < m.nCmds)
    (hsize : sizeofW1NetlinkMsg + m.cmdsSize ≤ sizeofMsgBuf) {fuel : ℕ}
    (hfuel : maxW1NetlinkMsgSz < fuel) {hndl : W1Hndl} {mem msgBuf : Mem UInt8} {env : IoEnv}
    {ds : List Datagram} (hsend : env.sendOk = true) {es : List RecvEvent}
    (hevents : env.events = recvEvents ds ++ .pollTimeout :: es) {req : CnMsg} {bs : List UInt8}
    (hsent : (w1MsgExec cfg fuel hndl m mem msgBuf env).sent = some (bs, req))
    (hds : ∀ d ∈ ds, d.IsPlain req.seq) (hlen : ds.length < 2 ^ 32)
    (hopt : ∀ i < m.nCmds, (m.cmds i).type.isRespRequired = false)
    (hne : (ds.flatMap fun d => d.arrived req) ≠ [])
    (hstatus : ∀ r ∈ ds.flatMap fun d => d.arrived req, r.2 = true → r.1.status = 0) :
    ∃ dta, (w1MsgExec cfg fuel hndl m mem msgBuf env).ret = some (.success, dta) := by
  have hds0 : ds.length ≠ 0 := by
    intro h
    rw [List.length_eq_zero_iff.mp h] at hne
    exact hne rfl
  obtain ⟨hmore, hs⟩ := deliver_optional cfg hopt hstatus hne
    (show W1msgMoreStat.moreReq ≠ .noMore by decide) (s := .init m) ⟨rfl, rfl⟩
  rw [w1MsgExec_ret_datagrams hm hpos hsize hfuel hsend hevents hsent hds hlen]
  dsimp only
  rw [if_neg (by rintro (h | h); exacts [hds0 h, hmore h]), execRet, if_neg (by simp),
    if_neg (not_not.mpr hs.status)]
  exact ⟨_, rfl⟩

end Optional

/-! ### Searches -/

section Search

variable {w : WordSize} {fuel : ℕ} {hndl : W1Hndl} {list : IdList} {pN : Option ℕ} {env : IoEnv}
  {w1msg : W1NetlinkMsg} {recvCb : RecvW1msgCb ListCbDta} {k : ℕ} {srchCmd : UInt8}
  {ids : W1NetlinkMsg → List (List UInt8)} {good : W1NetlinkMsg × Bool → Prop}

/-- A listing that is answered by datagrams with nothing but ids in them: it succeeds, with the
ids of all of them up to the capacity of the list. -/
theorem listingCall_datagrams
    (hcb : Collects w k list.ids list.maxSz srchCmd recvCb ids good)
    (hfuel : maxW1NetlinkMsgSz < fuel) (hsize : w1msg.toBytes.length ≤ 1024)
    (hsend : env.sendOk = true) {ds : List Datagram} {es : List RecvEvent}
    (hevents : env.events = recvEvents ds ++ .pollTimeout :: es)
    (hds : ∀ d ∈ ds, d.IsPlain (hndl.seq % seqRange)) (hlen : ds.length < 2 ^ 32)
    {rs : List (W1NetlinkMsg × Bool)}
    (harrived : ∀ h, (ds.flatMap fun d =>
      d.arrived (requestMsg (hndl.seq % seqRange) w1msg.toBytes h)) = rs)
    (hne : rs ≠ []) (hdata : ∀ r ∈ rs, r.2 = false) (hgood : ∀ r ∈ rs, good r) :
    ∃ r, (listingCall w fuel hndl list pN env w1msg recvCb k srchCmd).ret = some r ∧
      r.ret = .success ∧ r.sz = min (rs.flatMap fun x => ids x.1).length list.maxSz ∧
      ∀ mem : Mem UInt8, (mem.writeAll r.writes).read list.ids (k * r.sz) =
        ((rs.flatMap fun x => ids x.1).take r.sz).flatten := by
  obtain ⟨bs, req, h, hreq, hcall⟩ :=
    listingCall_eq w fuel hndl list pN env recvCb k srchCmd hsize
  have hds0 : ds.length ≠ 0 := by
    intro h0
    rw [← harrived h, List.length_eq_zero_iff.mp h0] at hne
    exact hne rfl
  have hthrough : throughStatus rs = rs := throughStatus_eq_self hdata
  obtain ⟨hbad, -⟩ | ⟨-, hmore, hcoll⟩ := hcb.deliver rs
    (show W1msgMoreStat.moreReq ≠ .noMore by decide) (collected_nil w k list.ids list.maxSz srchCmd)
  · rw [hthrough] at hbad
    exact absurd hgood hbad
  rw [hthrough, List.nil_append] at hcoll
  have hpos : 0 < req.data.length := hreq ▸ data_pos_requestMsg _ h
  have hseq : req.seq = hndl.seq % seqRange := hreq ▸ rfl
  rw [hcall, if_pos hsend, hevents, recvW1msg_datagrams w hfuel hpos _ (hseq ▸ hds) hlen es, hreq,
    harrived h]
  dsimp only
  rw [if_neg (by rintro (h0 | hreq); exacts [hds0 h0, hmore.resolve_left hne hreq])]
  refine ⟨_, rfl, ?_⟩
  rw [listingOf, if_neg (by simp), if_neg (not_not.mpr hcoll.status)]
  exact ⟨rfl, hcoll.nElems, hcoll.read⟩

theorem length_searchRequest_le (srchCmd : UInt8) (master : UInt32) :
    (searchRequest srchCmd master).toBytes.length ≤ 1024 := by
  simp [searchRequest, W1NetlinkMsg.len, W1NetlinkCmd.len, sizeofW1NetlinkMsg, sizeofW1NetlinkCmd]

/-- A search takes a sequence number for its request. -/
theorem searchSlaves_seq (w : WordSize) (fuel : ℕ) (hndl : W1Hndl) (list : IdList)
    (pN : Option ℕ) (env : IoEnv) (srchCmd : UInt8) (master : UInt32) :
    (searchSlaves w fuel hndl list pN env srchCmd master).hndl = ⟨hndl.seq + 1⟩ ∧
      ((searchSlaves w fuel hndl list pN env srchCmd master).sent.map fun x => x.2.seq) =
        some (hndl.seq % seqRange) := by
  obtain ⟨bs, req, h, hreq, hcall⟩ := listingCall_eq w fuel hndl list pN env (searchSlavsCb w) 8
    srchCmd (length_searchRequest_le srchCmd master)
  rw [searchSlaves, hcall, hreq]
  exact ⟨rfl, rfl⟩

/-- A search without a reply. It has sent its request and taken a sequence number, but lists
nothing. -/
theorem searchSlaves_silent (w : WordSize) (hfuel : maxW1NetlinkMsgSz < fuel) (hndl : W1Hndl)
    (list : IdList) (pN : Option ℕ) (srchCmd : UInt8) (master : UInt32)
    (hevents : env.events = [.pollTimeout]) :
    ∃ r, (searchSlaves w fuel hndl list pN env srchCmd master).ret = some r ∧
      r.ret = if env.sendOk then .noResp else .commErr := by
  obtain ⟨bs, req, h, hreq, hcall⟩ := listingCall_eq w fuel hndl list pN env (searchSlavsCb w) 8
    srchCmd (length_searchRequest_le srchCmd master)
  have hpos : 0 < req.data.length := hreq ▸ data_pos_requestMsg _ h
  rw [searchSlaves, hcall]
  by_cases hsend : env.sendOk = true
  · have hnone : env.events = recvEvents [] ++ .pollTimeout :: [] := hevents
    rw [if_pos hsend, if_pos hsend, hnone, recvW1msg_datagrams w hfuel hpos _ (by simp)
      (by decide) []]
    exact ⟨_, rfl, rfl⟩
  · rw [if_neg hsend, if_neg hsend]
    exact ⟨_, rfl, rfl⟩

/-- Ids that a search has found, as many as there is room for in one reply. -/
structure FoundIds where
  ids : List UInt64
  length_le : ids.length ≤ 507

/-- Ids as bytes. -/
def foundBytes (ids : List UInt64) : List UInt8 := (ids.map fun id => leBytes 8 id.toNat).flatten

/-- Bytes as ids. -/
def idsOf (bs : List UInt8) : List UInt64 := (elems 8 bs).map fun e => UInt64.ofNat (leVal e)

theorem elems_foundBytes (l : List UInt64) :
    elems 8 (foundBytes l) = l.map fun id => leBytes 8 id.toNat := by
  refine elems_flatten (by decide) fun e he => ?_
  obtain ⟨id, -, rfl⟩ := List.mem_map.mp he
  exact length_leBytes 8 _

@[simp]
theorem idsOf_foundBytes (l : List UInt64) : idsOf (foundBytes l) = l := by
  rw [idsOf, elems_foundBytes, List.map_map]
  refine (List.map_congr_left fun id _ => ?_).trans (List.map_id l)
  have hlt : id.toNat < 256 ^ 8 := id.toNat_lt
  rw [Function.comp_apply, leVal_leBytes_of_lt hlt, UInt64.ofNat_toNat]
  rfl

theorem length_foundBytes (l : List UInt64) : (foundBytes l).length = 8 * l.length := by
  induction l with
  | nil => rfl
  | cons id l ih =>
    rw [foundBytes, List.map_cons, List.flatten_cons, List.length_append, length_leBytes,
      ← foundBytes, ih, List.length_cons, Nat.mul_succ, Nat.add_comm]

namespace FoundIds

variable (f : FoundIds) (srchCmd : UInt8) (master : UInt32)

theorem length_foundBytes_lt : (foundBytes f.ids).length < 65536 := by
  have hle := f.length_le
  rw [length_foundBytes]
  omega

/-- The w1 command of the reply. -/
def w1cmd : W1NetlinkCmd := ⟨srchCmd, 0, foundBytes f.ids, f.length_foundBytes_lt⟩

theorem length_w1cmd : (f.w1cmd srchCmd).toBytes.length = 4 + 8 * f.ids.length := by
  rw [W1NetlinkCmd.length_toBytes, W1NetlinkCmd.len, w1cmd, length_foundBytes]
  rfl

theorem length_w1cmd_lt : (f.w1cmd srchCmd).toBytes.length < 65536 := by
  have hle := f.length_le
  rw [length_w1cmd]
  omega

/-- The reply. -/
def reply : W1NetlinkMsg where
  type := w1MasterCmd
  status := 0
  id := master.toUInt64
  data := (f.w1cmd srchCmd).toBytes
  data_lt := f.length_w1cmd_lt srchCmd

theorem length_reply_le : (f.reply srchCmd master).toBytes.length ≤ 4076 := by
  have hle := f.length_le
  have hlen : (f.reply srchCmd master).len = (f.w1cmd srchCmd).toBytes.length := rfl
  rw [W1NetlinkMsg.length_toBytes, hlen, length_w1cmd, sizeofW1NetlinkMsg]
  omega

theorem length_reply_lt : (f.reply srchCmd master).toBytes.length < 65536 :=
  (f.length_reply_le srchCmd master).trans_lt (by decide)

/-- The datagram of the reply. -/
def datagram (seq : UInt32) : Datagram :=
  singleReply seq 1 (f.reply srchCmd master) (f.length_reply_lt srchCmd master)

theorem chain_reply :
    W1NetlinkCmd.parser.chain (f.reply srchCmd master).data = [f.w1cmd srchCmd] :=
  W1NetlinkCmd.chain_toBytes _

theorem isPlain_datagram (seq seq' : UInt32) : (f.datagram srchCmd master seq).IsPlain seq' :=
  isPlain_singleReply (f.length_reply_lt srchCmd master) (f.length_reply_le srchCmd master) seq'

/-- What a search is handed of the datagram. -/
theorem arrived_datagram (seq : UInt32)
    (h : (searchRequest srchCmd master).toBytes.length < 65536) :
    (f.datagram srchCmd master seq).arrived
        (requestMsg seq (searchRequest srchCmd master).toBytes h) =
      [(f.reply srchCmd master, false)] := by
  refine arrived_singleReply (f.length_reply_lt srchCmd master)
    (f.length_reply_le srchCmd master) ?_
  rw [w1Req_requestMsg]
  exact ⟨rfl, fun _ => rfl, by rintro ⟨⟩⟩

end FoundIds

/-- The ids of the replies. -/
theorem flatMap_elems_reply (fs : List FoundIds) (srchCmd : UInt8) (master : UInt32) :
    ((fs.map fun f => (f.reply srchCmd master, false)).flatMap fun x =>
      (W1NetlinkCmd.parser.chain x.1.data).flatMap fun c => elems 8 c.data) =
    (fs.flatMap FoundIds.ids).map fun id => leBytes 8 id.toNat := by
  rw [List.flatMap_map, List.map_flatMap]
  refine List.flatMap_congr fun f _ => ?_
  rw [f.chain_reply, List.flatMap_singleton]
  exact elems_foundBytes f.ids

/-- **Searches.** A search that is answered lists the first of the ids that it has found, in
order, up to the capacity of the list. -/
theorem searchSlaves_found (pN : Option ℕ) (hlist : list.Allocated w 8)
    (hfuel : maxW1NetlinkMsgSz < fuel) {srchCmd : UInt8} {master : UInt32}
    (hsend : env.sendOk = true) {fs : List FoundIds} (hne : fs ≠ []) (hlen : fs.length < 2 ^ 32)
    {es : List RecvEvent} (hevents : env.events = recvEvents (fs.map fun f =>
      f.datagram srchCmd master (hndl.seq % seqRange)) ++ .pollTimeout :: es) :
    ∃ r, (searchSlaves w fuel hndl list pN env srchCmd master).ret = some r ∧
      r.ret = .success ∧
      ∀ mem : Mem UInt8, idsOf ((mem.writeAll r.writes).read list.ids (8 * r.sz)) =
        (fs.flatMap FoundIds.ids).take list.maxSz := by
  have hplain : ∀ d ∈ fs.map fun f => f.datagram srchCmd master (hndl.seq % seqRange),
      d.IsPlain (hndl.seq % seqRange) := by
    intro d hd
    obtain ⟨f, -, rfl⟩ := List.mem_map.mp hd
    exact f.isPlain_datagram srchCmd master _ _
  have harrived : ∀ h, ((fs.map fun f => f.datagram srchCmd master (hndl.seq % seqRange)).flatMap
      fun d => d.arrived (requestMsg (hndl.seq % seqRange)
        (searchRequest srchCmd master).toBytes h)) =
      fs.map fun f => (f.reply srchCmd master, false) := by
    intro h
    rw [List.flatMap_map, List.map_eq_flatMap]
    exact List.flatMap_congr fun f _ => f.arrived_datagram srchCmd master _ h
  have hgood : ∀ x ∈ fs.map fun f => (f.reply srchCmd master, false),
      (x.2 = true → x.1.status = 0) ∧
        ∀ c ∈ W1NetlinkCmd.parser.chain x.1.data, c.cmd = srchCmd := by
    intro x hx
    obtain ⟨f, -, rfl⟩ := List.mem_map.mp hx
    refine ⟨by rintro ⟨⟩, fun c hc => ?_⟩
    rw [f.chain_reply] at hc
    rw [List.mem_singleton.mp hc]
    rfl
  have hcb : Collects w 8 list.ids list.maxSz srchCmd (searchSlavsCb w) _ _ :=
    searchSlavsCb_collects hlist.pos hlist.fits (by decide)
  obtain ⟨r, hret, hsucc, hsz, hread⟩ := listingCall_datagrams hcb hfuel
    (length_searchRequest_le srchCmd master) hsend hevents hplain (by rwa [List.length_map])
    harrived (by simpa using hne) (by simp) hgood
  refine ⟨r, hret, hsucc, fun mem => ?_⟩
  rw [hread, flatMap_elems_reply, ← List.map_take]
  rw [flatMap_elems_reply, List.length_map] at hsz
  refine (idsOf_foundBytes _).trans ?_
  rw [hsz, Nat.min_comm]
  exact List.take_eq_take_min.symm

end Search

end Librasp
