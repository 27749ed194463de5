import Librasp.W1.ListSearch

/-!
# `recv_w1msg`: the pending status at a timeout

`more_stat` starts as `w1msg_more_req` and is then the last answer of the callback. A timeout ends
the receive loop: with success when no more messages are required, and with `LREC_NO_RESP` when
some are. `Awaited` says so of a run, on the log of the callback's answers.

The loop also takes a timeout for silence when `n_rcv_msgs` is 0, and this counter is an `unsigned
int`: after a multiple of `2 ^ 32` datagrams the loop reports that nothing was received, whatever
the callback has answered (`recvW1msg_awaited_iff`).

* `answering` is a callback that also keeps a log of its answers, which makes no difference to
  what it is handed (`deliver_answering`). The last answer of the log is the pending status
  (`LogInv`).
* A run that returns success or `LREC_NO_RESP` has timed out, behind some datagrams none of which
  has an error (`timedOut_of_recvW1msg`); what it returns is then told by the log and by the
  count.

**Main result.** `recvW1msg_awaited_iff`, for every list of events and every callback. A datagram
of which everything is filtered out leaves the pending status alone (`recvDatagram_filteredOut`).
-/

namespace Librasp

/-! ### The log of answers -/

/-- A callback that also keeps a log of its answers. -/
def answering {σ : Type*} (recvCb : RecvW1msgCb σ) : RecvW1msgCb (σ × List W1msgMoreStat) :=
  fun priv w1msg isStatus =>
    let r := recvCb priv.1 w1msg isStatus
    (r.1, r.2, priv.2 ++ [r.1])

/-- `more_stat` behind the answers of a log. -/
def pendingOf (log : List W1msgMoreStat) : W1msgMoreStat := log.getLastD .moreReq

@[simp]
theorem pendingOf_append (log : List W1msgMoreStat) (ms : W1msgMoreStat) :
    pendingOf (log ++ [ms]) = ms := by
  rw [pendingOf, List.getLastD_concat]

/-- A pending status other than the first one has been answered. -/
theorem ne_nil_of_pendingOf {log : List W1msgMoreStat} (h : pendingOf log ≠ .moreReq) :
    log ≠ [] := by
  rintro rfl
  exact h rfl

/-- What the log keeps along a run: the pending status is its last answer, and no answer behind
`w1msg_no_more` is there. -/
def LogInv (ms : W1msgMoreStat) (log : List W1msgMoreStat) : Prop :=
  ms = pendingOf log ∧ .noMore ∉ log.dropLast

/-- One call of the callback keeps the log right: it is only made when more is wanted. -/
theorem LogInv.answer {ms : W1msgMoreStat} {log : List W1msgMoreStat} (h : LogInv ms log)
    (hms : ms ≠ .noMore) (ms' : W1msgMoreStat) : LogInv ms' (log ++ [ms']) := by
  refine ⟨(pendingOf_append log ms').symm, ?_⟩
  rw [List.dropLast_concat]
  intro hmem
  have hne : log ≠ [] := List.ne_nil_of_mem hmem
  rw [← List.dropLast_concat_getLast hne, List.mem_append, List.mem_singleton] at hmem
  refine hmem.elim h.2 fun hlast => hms ?_
  rw [h.1, pendingOf, List.getLastD_eq_getLast?, List.getLast?_eq_some_getLast hne, ← hlast]
  rfl

section Answering

variable {σ : Type*} {recvCb : RecvW1msgCb σ}

/-- The log does not change what the callback is handed and what it answers. -/
theorem deliver_answering (rs : List (W1NetlinkMsg × Bool)) (ms : W1msgMoreStat) (priv : σ)
    (log : List W1msgMoreStat) :
    ((deliver (answering recvCb) rs (ms, priv, log)).1,
        (deliver (answering recvCb) rs (ms, priv, log)).2.1) = deliver recvCb rs (ms, priv) := by
  induction rs generalizing ms priv log with
  | nil => rfl
  | cons r rs ih =>
    by_cases hms : ms = .noMore
    · rw [deliver_noMore _ hms, deliver_noMore _ hms]
    · rw [deliver_cons _ _ hms, deliver_cons _ _ hms]
      exact ih ..

/-- Records that are handed over keep the log right. -/
theorem LogInv.deliver (rs : List (W1NetlinkMsg × Bool))
    {s : W1msgMoreStat × σ × List W1msgMoreStat} (h : LogInv s.1 s.2.2) :
    LogInv (Librasp.deliver (answering recvCb) rs s).1
      (Librasp.deliver (answering recvCb) rs s).2.2 := by
  induction rs generalizing s with
  | nil => exact h
  | cons r rs ih =>
    by_cases hms : s.1 = .noMore
    · rw [deliver_noMore _ hms]
      exact h
    · rw [deliver_cons _ _ hms]
      exact ih (h.answer hms _)

end Answering

/-! ### Runs that end with a timeout -/

/-- The netlink chain of a datagram has no error and comes to its end. -/
def Unpacked (bs : List UInt8) : Prop :=
  ∃ payload, nlChain (bs.take maxW1NetlinkMsgSz) = some (.ok payload)

/-- The events of a run that ends with a timeout behind some datagrams. -/
def timedOut (ds : List (List UInt8)) (rest : List RecvEvent) : List RecvEvent :=
  ds.map .datagram ++ .pollTimeout :: rest

/-- The errors of a netlink chain. -/
theorem nlChain_error {bs : List UInt8} {e : LrErrc} (h : nlChain bs = some (.error e)) :
    e = .protoErr ∨ e = .badMsg := by
  induction bs using nlChain.induct with
  | case1 bs hok hnoop => simp [nlChain, hok, hnoop] at h
  | case2 bs hok hnoop herr =>
    rw [nlChain, if_pos hok, if_neg hnoop, if_pos herr] at h
    cases h
    exact Or.inl rfl
  | case3 bs hok hnoop herr hdone =>
    rw [nlChain, if_pos hok, if_neg hnoop, if_neg herr, if_pos hdone] at h
    cases h
  | case4 bs hok hnoop herr hdone hmulti ih =>
    rw [nlChain, if_pos hok, if_neg hnoop, if_neg herr, if_neg hdone, if_pos hmulti] at h
    rcases hrest : nlChain (bs.drop (nlmsgAlign (nlLen bs))) with _ | e' | rest
    · simp [hrest] at h
    · rw [hrest] at h
      cases h
      exact ih hrest
    · simp [hrest, Except.map] at h
  | case5 bs hok hnoop herr hdone hmulti =>
    rw [nlChain, if_pos hok, if_neg hnoop, if_neg herr, if_neg hdone, if_neg hmulti] at h
    cases h
    exact Or.inr rfl
  | case6 bs hok =>
    rw [nlChain, if_neg hok] at h
    cases h

section TimedOut

variable {σ : Type*} {pReq : CnMsg} {recvCb : RecvW1msgCb σ}

/-- What a timeout behind some datagrams makes of the pending status: success, unless it is that
more messages are required, or the number of datagrams is one the counter takes for 0. -/
theorem refLoop_timedOut (pReq : CnMsg) (recvCb : RecvW1msgCb σ) {ds : List (List UInt8)}
    (hds : ∀ bs ∈ ds, Unpacked bs) (rest : List RecvEvent) {n : ℕ} (hn : n < 2 ^ 32)
    (s : W1msgMoreStat × σ) :
    refLoop pReq recvCb (timedOut ds rest) n s =
      let r := deliver recvCb (matched pReq (timedOut ds rest)) s
      some (if (n + ds.length) % 2 ^ 32 = 0 ∨ r.1 = .moreReq then .noResp else .success,
        r.2) := by
  induction ds generalizing n s with
  | nil =>
    have hmod : n % 2 ^ 32 = n := Nat.mod_eq_of_lt hn
    have hevents : timedOut [] rest = .pollTimeout :: rest := rfl
    have hnone : matched pReq (.pollTimeout :: rest) = [] := rfl
    rw [hevents, refLoop, hnone, List.length_nil, Nat.add_zero, hmod]
    dsimp only [deliver]
    by_cases h0 : n = 0
    · rw [if_pos h0, if_pos (Or.inl h0)]
    · by_cases hms : s.1 = .moreReq
      · rw [if_neg h0, if_pos hms, if_pos (Or.inr hms)]
      · rw [if_neg h0, if_neg hms, if_neg (by tauto)]
  | cons bs ds ih =>
    obtain ⟨payload, hpayload⟩ := hds bs List.mem_cons_self
    have hevents : timedOut (bs :: ds) rest = .datagram bs :: timedOut ds rest := rfl
    have hlen : ((n + 1) % 2 ^ 32 + ds.length) % 2 ^ 32 =
        (n + (bs :: ds).length) % 2 ^ 32 := by
      rw [List.length_cons, Nat.mod_add_mod, Nat.add_right_comm, Nat.add_assoc]
    rw [hevents, refLoop, matched, hpayload]
    dsimp only
    rw [ih (fun bs' hbs' => hds bs' (List.mem_cons_of_mem _ hbs')) (Nat.mod_lt _ (by decide)),
      hlen, deliver_append]

/-- The receive loop ends with success or `LREC_NO_RESP` at a timeout only. All other ends are
errors, of a system call or of a datagram. -/
theorem timedOut_of_refLoop {es : List RecvEvent} {n : ℕ} {s : W1msgMoreStat × σ}
    {ret : LrErrc} {priv : σ} (h : refLoop pReq recvCb es n s = some (ret, priv))
    (hret : ret = .success ∨ ret = .noResp) :
    ∃ ds rest, es = timedOut ds rest ∧ ∀ bs ∈ ds, Unpacked bs := by
  induction es generalizing n s with
  | nil => cases h
  | cons e es ih =>
    cases e with
    | pollTimeout => exact ⟨[], es, rfl, List.forall_mem_nil _⟩
    | pollError =>
      cases h
      exact absurd hret (by decide)
    | recvError =>
      cases h
      exact absurd hret (by decide)
    | datagram bs =>
      rw [refLoop] at h
      rcases hnl : nlChain (bs.take maxW1NetlinkMsgSz) with _ | e | payload
      · rw [hnl] at h
        cases h
      · rw [hnl] at h
        cases h
        rcases nlChain_error hnl with rfl | rfl <;> exact absurd hret (by decide)
      · rw [hnl] at h
        obtain ⟨ds, rest, rfl, hds⟩ := ih h
        exact ⟨bs :: ds, rest, rfl, List.forall_mem_cons.mpr ⟨⟨payload, hnl⟩, hds⟩⟩

end TimedOut

/-! ### What a run is to return -/

/-- What is promised of a run: it succeeds only at a timeout behind an answer of the callback,
when no more messages are required; it ends with `LREC_NO_RESP` only at a timeout when more are
required, or nothing was received at all; and `w1msg_no_more` is the last answer. -/
structure Awaited (es : List RecvEvent) (ret : LrErrc) (log : List W1msgMoreStat) : Prop where
  success : ret = .success →
    ∃ ds rest, es = timedOut ds rest ∧ log ≠ [] ∧ pendingOf log ≠ .moreReq
  noResp : ret = .noResp →
    ∃ ds rest, es = timedOut ds rest ∧ (pendingOf log = .moreReq ∨ ds = [])
  noMore : .noMore ∉ log.dropLast

/-- All w1 messages of a datagram are filtered out. -/
def FilteredOut (pReq : CnMsg) (bs : List UInt8) : Prop :=
  ∃ payload, nlChain (bs.take maxW1NetlinkMsgSz) = some (.ok payload) ∧ records pReq payload = []

/-- `n_rcv_msgs` wraps to 0 before a timeout that finds no more messages required: the datagrams
are a multiple of `2 ^ 32` in number, and the last answer to what they hold is not
`w1msg_more_req`. -/
def CountWraps {σ : Type*} (pReq : CnMsg) (recvCb : RecvW1msgCb σ) (priv : σ)
    (es : List RecvEvent) : Prop :=
  ∃ ds rest, es = timedOut ds rest ∧ (∀ bs ∈ ds, Unpacked bs) ∧ ds ≠ [] ∧
    2 ^ 32 ∣ ds.length ∧ (deliver recvCb (matched pReq es) (.moreReq, priv)).1 ≠ .moreReq

section Run

variable {σ : Type*} {w : WordSize} {fuel : ℕ} {pReq : CnMsg} {recvCb : RecvW1msgCb σ}

/-- The run of the logging callback, without its log. So what is said with a log is said of the
callback itself. -/
theorem recvW1msg_answering (hfuel : maxW1NetlinkMsgSz < fuel) (stale : Mem UInt8) (priv : σ)
    (es : List RecvEvent) :
    (recvW1msg w fuel pReq (answering recvCb) stale (priv, []) es).map
      (fun r => (r.1, r.2.1)) = recvW1msg w fuel pReq recvCb stale priv es := by
  have hloop : ∀ (n : ℕ) (ms : W1msgMoreStat) (priv : σ) (log : List W1msgMoreStat),
      (refLoop pReq (answering recvCb) es n (ms, priv, log)).map (fun r => (r.1, r.2.1)) =
        refLoop pReq recvCb es n (ms, priv) := by
    induction es with
    | nil => exact fun _ _ _ _ => rfl
    | cons e es ih =>
      intro n ms priv log
      cases e with
      | pollTimeout =>
        rw [refLoop, refLoop]
        split_ifs <;> rfl
      | pollError => rfl
      | recvError => rfl
      | datagram bs =>
        rw [refLoop, refLoop]
        rcases nlChain (bs.take maxW1NetlinkMsgSz) with _ | e | payload
        · rfl
        · rfl
        · dsimp only
          rw [← deliver_answering (records pReq payload) ms priv log]
          exact ih ..
  rw [recvW1msg_eq_refRecv w pReq _ hfuel, recvW1msg_eq_refRecv w pReq _ hfuel, refRecv, refRecv]
  split_ifs
  · rfl
  · exact hloop ..

/-- A run that ends with a timeout behind some datagrams: the pending status is the last answer
to the messages that match, and decides unless the count is 0. -/
theorem recvW1msg_timedOut (w : WordSize) (recvCb : RecvW1msgCb σ)
    (hfuel : maxW1NetlinkMsgSz < fuel) (hreq : 0 < pReq.data.length)
    {ds : List (List UInt8)} (hds : ∀ bs ∈ ds, Unpacked bs) (rest : List RecvEvent)
    (stale : Mem UInt8) (priv : σ) :
    ∃ priv' log,
      recvW1msg w fuel pReq (answering recvCb) stale (priv, []) (timedOut ds rest) =
        some (if ds.length % 2 ^ 32 = 0 ∨ pendingOf log = .moreReq then .noResp else .success,
          priv', log) ∧
      pendingOf log =
        (deliver recvCb (matched pReq (timedOut ds rest)) (.moreReq, priv)).1 := by
  obtain ⟨r, hr⟩ : ∃ r, r = deliver (answering recvCb) (matched pReq (timedOut ds rest))
    (.moreReq, priv, []) := ⟨_, rfl⟩
  have hlog : LogInv r.1 r.2.2 := hr ▸ LogInv.deliver _ ⟨rfl, List.not_mem_nil⟩
  have hrun := refLoop_timedOut pReq (answering recvCb) hds rest (n := 0) (by decide)
    (.moreReq, priv, [])
  dsimp only at hrun
  rw [Nat.zero_add, ← hr, hlog.1] at hrun
  refine ⟨r.2.1, r.2.2, ?_, ?_⟩
  · rw [recvW1msg_eq_refRecv w pReq _ hfuel, refRecv, if_neg (by omega), hrun]
  · rw [← deliver_answering (matched pReq (timedOut ds rest)) .moreReq priv [], ← hr]
    exact hlog.1.symm

/-- A run that returns success or `LREC_NO_RESP` has timed out, behind datagrams whose netlink
chains come to their end; and what it returns is told by the log and the count. -/
theorem timedOut_of_recvW1msg (hfuel : maxW1NetlinkMsgSz < fuel) (hreq : 0 < pReq.data.length)
    {stale : Mem UInt8} {priv priv' : σ} {log : List W1msgMoreStat} {es : List RecvEvent}
    {ret : LrErrc}
    (hret : recvW1msg w fuel pReq (answering recvCb) stale (priv, []) es =
      some (ret, priv', log))
    (hend : ret = .success ∨ ret = .noResp) :
    ∃ ds rest, es = timedOut ds rest ∧ (∀ bs ∈ ds, Unpacked bs) ∧
      ret = (if ds.length % 2 ^ 32 = 0 ∨ pendingOf log = .moreReq then .noResp else .success) ∧
      pendingOf log = (deliver recvCb (matched pReq es) (.moreReq, priv)).1 := by
  have hloop := hret
  rw [recvW1msg_eq_refRecv w pReq _ hfuel, refRecv, if_neg (by omega)] at hloop
  obtain ⟨ds, rest, rfl, hds⟩ := timedOut_of_refLoop hloop hend
  obtain ⟨priv'', log', hrun, hpending⟩ :=
    recvW1msg_timedOut w recvCb hfuel hreq hds rest stale priv
  rw [hret] at hrun
  obtain ⟨hcode, hpriv⟩ := Prod.mk.inj (Option.some.inj hrun)
  obtain ⟨-, rfl⟩ := Prod.mk.inj hpriv
  exact ⟨ds, rest, rfl, hds, hcode, hpending⟩

/-- A datagram that is filtered out leaves the pending status alone. -/
theorem recvDatagram_filteredOut (hfuel : maxW1NetlinkMsgSz < fuel) {bs : List UInt8}
    (h : FilteredOut pReq bs) (s : RecvState σ) :
    ∃ s', recvDatagram w fuel pReq recvCb bs s = some (.ok s') ∧ s'.moreStat = s.moreStat ∧
      s'.priv = s.priv := by
  obtain ⟨payload, hpayload, hnone⟩ := h
  have hdatagram := recvDatagram_eq w pReq recvCb hfuel bs s
  rw [hpayload] at hdatagram
  obtain ⟨s', hrun, hs'⟩ := hdatagram
  rw [hnone] at hs'
  exact ⟨s', hrun, Prod.mk.inj hs'⟩

/-- A run in which the count wraps reports that nothing was received. The last answer of the
callback was that no more messages are required. -/
theorem not_awaited_of_countWraps (w : WordSize) (hfuel : maxW1NetlinkMsgSz < fuel)
    (hreq : 0 < pReq.data.length) {priv : σ} {es : List RecvEvent}
    (h : CountWraps pReq recvCb priv es) (stale : Mem UInt8) :
    ∃ priv' log,
      recvW1msg w fuel pReq (answering recvCb) stale (priv, []) es =
        some (.noResp, priv', log) ∧ ¬ Awaited es .noResp log := by
  obtain ⟨ds, rest, rfl, hds, hne, hdvd, hms⟩ := h
  obtain ⟨priv', log, hrun, hpending⟩ :=
    recvW1msg_timedOut w recvCb hfuel hreq hds rest stale priv
  rw [if_pos (Or.inl (Nat.mod_eq_zero_of_dvd hdvd))] at hrun
  refine ⟨priv', log, hrun, fun hawaited => ?_⟩
  obtain ⟨ds', rest', heq, hmore | rfl⟩ := hawaited.noResp rfl
  · exact hms (hpending.symm.trans hmore)
  · -- the run did receive a datagram
    obtain ⟨bs, ds, rfl⟩ := List.exists_cons_of_ne_nil hne
    cases heq

/-- **The pending status at a timeout.** A run returns what is promised, and a datagram that is
filtered out leaves the pending status alone, exactly when the count of datagrams does not wrap
to 0 before a timeout that finds no more messages required. -/
theorem recvW1msg_awaited_iff (hfuel : maxW1NetlinkMsgSz < fuel) (hreq : 0 < pReq.data.length)
    (stale : Mem UInt8) (priv : σ) (es : List RecvEvent) :
    ((∀ ret priv' log,
        recvW1msg w fuel pReq (answering recvCb) stale (priv, []) es = some (ret, priv', log) →
          Awaited es ret log) ∧
      ∀ bs, FilteredOut pReq bs → ∀ s : RecvState σ,
        ∃ s', recvDatagram w fuel pReq recvCb bs s = some (.ok s') ∧
          s'.moreStat = s.moreStat ∧ s'.priv = s.priv) ↔
      ¬ CountWraps pReq recvCb priv es := by
  constructor
  · rintro ⟨hrun, -⟩ hwraps
    obtain ⟨priv', log, hret, hnot⟩ := not_awaited_of_countWraps w hfuel hreq hwraps stale
    exact hnot (hrun _ _ _ hret)
  intro hwraps
  refine ⟨fun ret priv' log hret => ?_, fun bs hbs => recvDatagram_filteredOut hfuel hbs⟩
  -- the log is right at the end of every run
  obtain ⟨ms, hlog, -⟩ := recvW1msg_invariant (I := fun ms p => LogInv ms p.2)
    (fun ms p w1msg isStatus hms h => h.answer hms _) hreq
    (show LogInv .moreReq [] from ⟨rfl, List.not_mem_nil⟩) hret
  refine ⟨fun hsucc => ?_, fun hno => ?_, hlog.2⟩
  · obtain ⟨ds, rest, heq, -, hcode, -⟩ := timedOut_of_recvW1msg hfuel hreq hret (Or.inl hsucc)
    split_ifs at hcode with h
    · exact absurd (hsucc.symm.trans hcode) (by decide)
    · have hms := (not_or.mp h).2
      exact ⟨ds, rest, heq, ne_nil_of_pendingOf hms, hms⟩
  · obtain ⟨ds, rest, heq, hds, hcode, hpending⟩ :=
      timedOut_of_recvW1msg hfuel hreq hret (Or.inr hno)
    refine ⟨ds, rest, heq, ?_⟩
    by_contra hnot
    obtain ⟨hms, hne⟩ := not_or.mp hnot
    -- the count is 0 without being that of an empty run
    have hzero : ds.length % 2 ^ 32 = 0 := by
      by_contra hzero
      rw [if_neg (by tauto)] at hcode
      exact absurd (hno.symm.trans hcode) (by decide)
    exact hwraps ⟨ds, rest, heq, hds, hne, Nat.dvd_of_mod_eq_zero hzero, hpending ▸ hms⟩

/-- The count does not wrap within `2 ^ 32` events. -/
theorem not_countWraps_of_length_le {priv : σ} {es : List RecvEvent} (h : es.length ≤ 2 ^ 32) :
    ¬ CountWraps pReq recvCb priv es := by
  rintro ⟨ds, rest, rfl, -, hne, hdvd, -⟩
  rw [timedOut, List.length_append, List.length_map, List.length_cons] at h
  have hle : 2 ^ 32 ≤ ds.length := Nat.le_of_dvd (List.length_pos_of_ne_nil hne) hdvd
  omega

end Run

/-! ### Too many replies to count -/

/-- A request for the list of masters. -/
def mastersReq : CnMsg :=
  ⟨cnW1Idx, cnW1Val, 7, ackStatVal, 0, [6, 0, 0, 0, 0, 0, 0, 0, 0, 0, 0, 0], by decide⟩

/-- A reply to it, with no masters. -/
def mastersReply : W1NetlinkMsg := ⟨w1ListMasters, 0, 0, [], W1NetlinkMsg.noData_lt⟩

/-- A callback that does not require more messages. -/
def optionalCb : RecvW1msgCb Unit := fun _ _ _ => (.moreOpt, ())

/-- More messages stay optional behind the first. -/
theorem deliver_optionalCb {rs : List (W1NetlinkMsg × Bool)} (hne : rs ≠ [])
    {s : W1msgMoreStat × Unit} (hs : s.1 ≠ .noMore) : (deliver optionalCb rs s).1 = .moreOpt := by
  induction rs generalizing s with
  | nil => exact absurd rfl hne
  | cons r rs ih =>
    rw [deliver_cons _ _ hs]
    cases rs with
    | nil => rfl
    | cons r' rs =>
      exact ih (List.cons_ne_nil _ _) (show W1msgMoreStat.moreOpt ≠ .noMore by decide)

/-- Replies, which the callback is handed. -/
theorem exists_reply : ∃ bs, Unpacked bs ∧ ∀ n, 0 < n →
    (deliver optionalCb (matched mastersReq (timedOut (List.replicate n bs) [])) (.moreReq, ())).1 =
      .moreOpt := by
  have hlen : mastersReply.toBytes.length < 65536 := by decide
  have hle : mastersReply.toBytes.length ≤ 4076 := by decide
  have hans : Answers (w1Req mastersReq) mastersReply := by decide
  obtain ⟨d, hd⟩ : ∃ d, d = singleReply mastersReq.seq 1 mastersReply hlen := ⟨_, rfl⟩
  refine ⟨d.toBytes, ⟨_, nlChain_take_toBytes d _⟩, fun n hpos => ?_⟩
  have hplain : ∀ d' ∈ List.replicate n d, d'.IsPlain mastersReq.seq := by
    intro d' hd'
    rw [List.eq_of_mem_replicate hd', hd]
    exact isPlain_singleReply hlen hle _
  have hevents : timedOut (List.replicate n d.toBytes) [] =
      recvEvents (List.replicate n d) ++ [.pollTimeout] := by
    rw [timedOut, recvEvents, List.map_replicate, List.map_replicate]
  have hmatched : matched mastersReq (timedOut (List.replicate n d.toBytes) []) ≠ [] := by
    rw [hevents, matched_datagrams hplain, List.flatMap_replicate, hd,
      arrived_singleReply hlen hle hans, ← List.length_pos_iff, List.length_flatten,
      List.map_replicate, List.sum_replicate]
    simpa using hpos
  exact deliver_optionalCb hmatched (by decide)

/-- Replies in a number that the counter cannot tell from 0. -/
theorem countWraps_replies {n : ℕ} (hpos : 0 < n) (hdvd : 2 ^ 32 ∣ n) :
    ∃ bs, CountWraps mastersReq optionalCb () (timedOut (List.replicate n bs) []) := by
  obtain ⟨bs, hbs, hdeliver⟩ := exists_reply
  refine ⟨bs, _, _, rfl, fun bs' hbs' => ?_, ?_, ?_, ?_⟩
  · rw [List.eq_of_mem_replicate hbs']
    exact hbs
  · rw [← List.length_pos_iff, List.length_replicate]
    exact hpos
  · rw [List.length_replicate]
    exact hdvd
  · rw [hdeliver n hpos]
    decide

/-- `2 ^ 32` replies, none of which leaves more messages required, are reported as none. -/
theorem recvW1msg_count_wraps :
    ∃ bs log,
      recvW1msg .lp64 4113 mastersReq (answering optionalCb) (fun _ => 0) ((), [])
          (timedOut (List.replicate (2 ^ 32) bs) []) = some (.noResp, (), log) ∧
        ¬ Awaited (timedOut (List.replicate (2 ^ 32) bs) []) .noResp log := by
  obtain ⟨bs, hwraps⟩ := countWraps_replies (n := 2 ^ 32) (Nat.two_pow_pos _) (dvd_refl _)
  obtain ⟨⟨⟩, log, hrun, hnot⟩ := not_awaited_of_countWraps .lp64
    (show maxW1NetlinkMsgSz < 4113 by decide) (by decide) hwraps (fun _ => 0)
  exact ⟨bs, log, hrun, hnot⟩

/-- One reply, of which the callback is told, and a timeout. -/
theorem recvW1msg_awaited_reply :
    ∃ bs log,
      recvW1msg .lp64 4113 mastersReq (answering optionalCb) (fun _ => 0) ((), [])
          (timedOut [bs] []) = some (.success, (), log) ∧
        log ≠ [] ∧ Awaited (timedOut [bs] []) .success log := by
  obtain ⟨bs, hbs, hdeliver⟩ := exists_reply
  have hfuel : maxW1NetlinkMsgSz < 4113 := by decide
  have hreq : 0 < mastersReq.data.length := by decide
  obtain ⟨⟨⟩, log, hrun, hpending⟩ := recvW1msg_timedOut .lp64 optionalCb hfuel hreq
    (List.forall_mem_singleton.mpr hbs) [] (fun _ => 0) ()
  have hopt : pendingOf log = .moreOpt := hpending.trans (hdeliver 1 Nat.one_pos)
  rw [hopt, List.length_singleton, if_neg (by decide)] at hrun
  refine ⟨bs, log, hrun, ne_nil_of_pendingOf (by rw [hopt]; decide), ?_⟩
  exact ((recvW1msg_awaited_iff hfuel hreq (fun _ => 0) () (timedOut [bs] [])).mpr
    (not_countWraps_of_length_le (by decide : 2 ≤ 2 ^ 32))).1 _ _ _ hrun

end Librasp
