import Librasp.Foundation.Run
import Librasp.W1.ListSearch

/-!
# Several handles

`w1_init` gives every handle a socket of its own and a counter that starts at 0, and the header
has several handles at work for separate operations. This file runs any number of handles against
one kernel: calls of `send_recv_w1msg` on each of them, replies of the kernel that reach one
socket or all of them, and the rounds of the receive loops, in any order.

A reply is told from others by its sequence number, its w1 type and the id, and by nothing that
says which handle it is for. So a handle takes the reply to another's request when the two
requests agree in these (`handed_of_confusable`); they do from the start, since both counters are
0. No reply goes astray in a run whose requests can all be told apart when they are sent
(`handed_own`).

* `Sys` is the state: the handles with their queues and calls, and the requests that were sent.
  `Act` is what can happen next, and `Sys.step` what comes of it.
* `Call.Follows` ties the rounds of a call to `recv_w1msg`: what a call keeps is what the function
  has made of the datagrams received so far.
* `Sys.Isolated` is the invariant: no reply in a queue passes the filters of a call it is not for.

**Main result.** `Sys.handed_own`, over every run whose sendings meet `Sys.Distinct`.
-/

namespace Librasp

/-! ### The system -/

/-- A request that was sent: when, on which handle, and what. -/
structure Origin (ι : Type) where
  ticket : ℕ
  hndl : ι
  req : CnMsg
  deriving DecidableEq

/-- A call of `send_recv_w1msg` in its receive loop: what it began with, the datagrams it has
received, and what the loop keeps. The data of the callback carries the log of its calls. -/
structure Call (ι : Type) where
  origin : Origin ι
  σ : Type
  recvCb : RecvW1msgCb σ
  priv : σ
  stale : Mem UInt8
  events : List RecvEvent
  nRcvMsgs : ℕ
  recv : RecvState (σ × List (W1NetlinkMsg × Bool))

/-- The call after one more datagram. -/
def Call.next {ι : Type} (c : Call ι) (d : Datagram)
    (r : RecvState (c.σ × List (W1NetlinkMsg × Bool))) : Call ι :=
  { c with
    events := c.events ++ [.datagram d.toBytes]
    nRcvMsgs := (c.nRcvMsgs + 1) % 2 ^ 32
    recv := r }

/-- Handles and the kernel. -/
structure Sys (ι : Type) where
  hndl : ι → W1Hndl
  /-- The call at work on a handle. -/
  call : ι → Option (Call ι)
  /-- The datagrams that wait on the socket of a handle, with the request they reply to. -/
  queue : ι → List (Origin ι × Datagram)
  /-- The requests that the kernel may still reply to. -/
  outstanding : List (Origin ι)
  tickets : ℕ
  /-- The replies processed by a callback so far: the request of the call, and the request that
  was replied to. -/
  handed : List (Origin ι × Origin ι)

/-- What can happen next. -/
inductive Act (ι : Type)
  /-- A call of `send_recv_w1msg`, up to `send()`. -/
  | send (i : ι) (pW1msg sendBuf : Mem UInt8) (sendOk : Bool) (σ : Type)
      (recvCb : RecvW1msgCb σ) (priv : σ) (stale : Mem UInt8)
  /-- The kernel sends a datagram with replies to a request. -/
  | reply (o : Origin ι) (d : Datagram) (multicast : Bool)
  /-- The kernel has sent all replies to a request. -/
  | done (o : Origin ι)
  /-- A handle receives a datagram. -/
  | recv (i : ι)
  /-- `poll()` returns 0 and the call ends. -/
  | timeout (i : ι)
  /-- `poll()` or `recv()` fails and the call ends. -/
  | error (i : ι)

/-- A datagram that replies to a request: each reply repeats the request's sequence number, and
its w1 message the w1 type and the id. -/
def RepliesTo (req : CnMsg) (d : Datagram) : Prop :=
  ∀ c ∈ d.cns, c.IsReply req.seq ∧ c.recs.length ≤ 1 ∧
    ∀ r ∈ c.recs, r.type = (w1Req req).type ∧ r.id = (w1Req req).id

instance (req : CnMsg) (d : Datagram) : Decidable (RepliesTo req d) :=
  inferInstanceAs (Decidable (∀ c ∈ d.cns, _ ∧ _ ∧ _))

section Model

variable {ι : Type} (w : WordSize)

namespace Sys

/-- Fresh handles. -/
def init : Sys ι where
  hndl := fun _ => w1Init
  call := fun _ => none
  queue := fun _ => []
  outstanding := []
  tickets := 0
  handed := []

variable [DecidableEq ι] (s : Sys ι)

/-- A request has gone out. -/
def request (i : ι) (hndl : W1Hndl) (req : CnMsg) {σ : Type} (recvCb : RecvW1msgCb σ) (priv : σ)
    (stale : Mem UInt8) : Sys ι :=
  let o : Origin ι := ⟨s.tickets, i, req⟩
  { s with
    hndl := Function.update s.hndl i hndl
    call := Function.update s.call i
      (some ⟨o, σ, recvCb, priv, stale, [], 0, ⟨stale, .moreReq, (priv, [])⟩⟩)
    outstanding := s.outstanding ++ [o]
    tickets := s.tickets + 1 }

/-- One round of the receive loop of a call, with what comes of the datagram. -/
def received (i : ι) (c : Call ι) (o : Origin ι) (d : Datagram)
    (r : RecvState (c.σ × List (W1NetlinkMsg × Bool))) : Sys ι :=
  { s with
    call := Function.update s.call i (some (c.next d r))
    queue := Function.update s.queue i (s.queue i).tail
    handed := s.handed ++ if r.priv.2 = c.recv.priv.2 then [] else [(c.origin, o)] }

/-- The call on a handle is over. -/
def leave (i : ι) : Sys ι := { s with call := Function.update s.call i none }

/-- The effect of one action; `none` when it cannot happen. -/
def step (s : Sys ι) : Act ι → Option (Sys ι)
  | .send i pW1msg sendBuf sendOk _ recvCb priv stale =>
    match s.call i with
    | some _ => none
    | none =>
      match sendW1msg (s.hndl i) pW1msg sendBuf with
      | (.error _, hndl) => some { s with hndl := Function.update s.hndl i hndl }
      | (.ok sent, hndl) =>
        some (if sendOk then s.request i hndl sent.2 recvCb priv stale
          else { s with hndl := Function.update s.hndl i hndl })
  | .reply o d multicast =>
    if o ∈ s.outstanding ∧ RepliesTo o.req d then
      some { s with
        queue := fun j => if multicast ∨ j = o.hndl then s.queue j ++ [(o, d)] else s.queue j }
    else none
  | .done o => some { s with outstanding := s.outstanding.filter (· ≠ o) }
  | .recv i =>
    match s.call i, s.queue i with
    | some c, (o, d) :: _ =>
      match recvDatagram w (maxW1NetlinkMsgSz + 1) c.origin.req (logged c.recvCb) d.toBytes
          c.recv with
      | none => none
      | some (.error _) => some { s.leave i with
          queue := Function.update s.queue i (s.queue i).tail }
      | some (.ok r) => some (s.received i c o d r)
    | _, _ => none
  | .timeout i => if (s.call i).isSome ∧ (s.queue i).isEmpty then some (s.leave i) else none
  | .error i => if (s.call i).isSome then some (s.leave i) else none

end Sys

/-! ### Steps -/

/-- The request that goes out carries the counter and the caller's w1 message. -/
theorem sendW1msg_request {hndl hndl' : W1Hndl} {pW1msg sendBuf : Mem UInt8}
    {sent : List UInt8 × CnMsg} (h : sendW1msg hndl pW1msg sendBuf = (.ok sent, hndl')) :
    sent.2.seq = hndl.seq % seqRange ∧ w1Req sent.2 = w1MsgAt pW1msg 0 ∧
      0 < sent.2.data.length := by
  obtain ⟨-, herr⟩ | ⟨-, hlen, hok⟩ := sendW1msg_cases hndl pW1msg sendBuf rfl
  · rw [herr] at h
    cases h
  · rw [hok] at h
    cases h
    refine ⟨rfl, ?_, by simp [requestMsg, sizeofW1NetlinkMsg]⟩
    exact w1MsgAt_ofBytes_read (m := pW1msg) (p := 0) (a := 0) (le_of_eq (by simp))

/-- A call receives replies one by one. -/
theorem recvDatagram_replies {σ : Type} (req : CnMsg) {o : Origin ι} {d : Datagram}
    (hd : RepliesTo o.req d) (recvCb : RecvW1msgCb σ)
    (s : RecvState (σ × List (W1NetlinkMsg × Bool))) :
    ∃ r, recvDatagram w (maxW1NetlinkMsgSz + 1) req (logged recvCb) d.toBytes s = some (.ok r) ∧
      (r.moreStat, r.priv) = deliver (logged recvCb) (d.arrived req) (s.moreStat, s.priv) := by
  have hplain : d.IsPlain req.seq := fun c hc _ =>
    (hd c (d.received_append_cutOff ▸ List.mem_append_left _ hc)).2.1
  exact hplain.recvDatagram w (Nat.lt_succ_self _) (logged recvCb) s

namespace Sys

variable [DecidableEq ι] {s s' : Sys ι} {i j : ι}

theorem call_request {hndl : W1Hndl} {req : CnMsg} {σ : Type} {recvCb : RecvW1msgCb σ}
    {priv : σ} {stale : Mem UInt8} {c : Call ι}
    (h : (s.request i hndl req recvCb priv stale).call j = some c) :
    j = i ∧ c = ⟨⟨s.tickets, i, req⟩, σ, recvCb, priv, stale, [], 0,
        ⟨stale, .moreReq, (priv, [])⟩⟩ ∨
      j ≠ i ∧ s.call j = some c := by
  by_cases hj : j = i
  · subst hj
    simp only [request, Function.update_self] at h
    exact .inl ⟨rfl, (Option.some.inj h).symm⟩
  · exact .inr ⟨hj, by simpa only [request, Function.update_of_ne hj] using h⟩

theorem call_received {c c' : Call ι} {o : Origin ι} {d : Datagram}
    {r : RecvState (c.σ × List (W1NetlinkMsg × Bool))}
    (h : (s.received i c o d r).call j = some c') :
    j = i ∧ c' = c.next d r ∨ s.call j = some c' := by
  by_cases hj : j = i
  · subst hj
    simp only [received, Function.update_self] at h
    exact .inl ⟨rfl, (Option.some.inj h).symm⟩
  · exact .inr (by simpa only [received, Function.update_of_ne hj] using h)

theorem call_leave {c : Call ι} (h : (s.leave i).call j = some c) : s.call j = some c := by
  by_cases hj : j = i
  · subst hj
    simp [leave] at h
  · simpa only [leave, Function.update_of_ne hj] using h

theorem mem_queue_received {c : Call ι} {o : Origin ι} {d : Datagram}
    {r : RecvState (c.σ × List (W1NetlinkMsg × Bool))} {x : Origin ι × Datagram}
    (h : x ∈ (s.received i c o d r).queue j) : x ∈ s.queue j := by
  by_cases hj : j = i
  · subst hj
    simp only [received, Function.update_self] at h
    exact List.mem_of_mem_tail h
  · simpa only [received, Function.update_of_ne hj] using h

/-- A call goes out, or comes to nothing. If it goes out, the handle has taken a sequence number,
and the call begins with what `send_recv_w1msg` begins with. -/
theorem step_send {pW1msg sendBuf stale : Mem UInt8} {sendOk : Bool} {σ : Type}
    {recvCb : RecvW1msgCb σ} {priv : σ}
    (h : s.step w (.send i pW1msg sendBuf sendOk σ recvCb priv stale) = some s') :
    (∃ hndl, s' = { s with hndl := Function.update s.hndl i hndl }) ∨
      ∃ sent hndl, sendOk = true ∧ sendW1msg (s.hndl i) pW1msg sendBuf = (.ok sent, hndl) ∧
        s' = s.request i hndl sent.2 recvCb priv stale := by
  simp only [step] at h
  split at h
  · cases h
  split at h
  · cases h
    exact .inl ⟨_, rfl⟩
  · next sent hndl hsend =>
    cases h
    by_cases hok : sendOk = true
    · exact .inr ⟨sent, hndl, hok, hsend, if_pos hok⟩
    · exact .inl ⟨hndl, if_neg hok⟩

/-- A datagram with replies to an outstanding request joins the queues. -/
theorem step_reply {o : Origin ι} {d : Datagram} {multicast : Bool}
    (h : s.step w (.reply o d multicast) = some s') :
    o ∈ s.outstanding ∧ RepliesTo o.req d ∧ s'.call = s.call ∧
      s'.outstanding = s.outstanding ∧ s'.handed = s.handed ∧
      ∀ j, ∀ x ∈ s'.queue j, x ∈ s.queue j ∨ x = (o, d) := by
  obtain ⟨⟨ho, hd⟩, h⟩ := Option.ite_none_right_eq_some.mp h
  obtain rfl := Option.some.inj h
  refine ⟨ho, hd, rfl, rfl, rfl, fun j x hx => ?_⟩
  dsimp only at hx
  split at hx
  · simpa using hx
  · exact .inl hx

/-- A round of the receive loop. The datagram is one of the queue, so it is well formed, and the
loop makes of it what the reference parser does. -/
theorem step_recv (hreplies : ∀ x ∈ s.queue i, RepliesTo x.1.req x.2)
    (h : s.step w (.recv i) = some s') :
    ∃ c o d r, s.call i = some c ∧ (o, d) ∈ s.queue i ∧
      recvDatagram w (maxW1NetlinkMsgSz + 1) c.origin.req (logged c.recvCb) d.toBytes c.recv =
        some (.ok r) ∧
      (r.moreStat, r.priv) =
        deliver (logged c.recvCb) (d.arrived c.origin.req) (c.recv.moreStat, c.recv.priv) ∧
      s' = s.received i c o d r := by
  simp only [step] at h
  split at h
  · next c o d ds hc hq =>
    have hmem : (o, d) ∈ s.queue i := hq ▸ List.mem_cons_self
    obtain ⟨r, hrun, hr⟩ :=
      recvDatagram_replies w c.origin.req (hreplies _ hmem) c.recvCb c.recv
    rw [hrun] at h
    exact ⟨c, o, d, r, hc, hmem, hrun, hr, (Option.some.inj h).symm⟩
  · cases h

/-- The end of a call. -/
theorem step_leave {a : Act ι} (ha : a = .timeout i ∨ a = .error i)
    (h : s.step w a = some s') : s' = s.leave i := by
  obtain rfl | rfl := ha <;>
    exact (Option.some.inj (Option.ite_none_right_eq_some.mp h).2).symm

end Sys

/-! ### Calls and `recv_w1msg` -/

/-- What a call keeps is what `recv_w1msg` has made of the datagrams received. -/
def Call.Follows (c : Call ι) : Prop :=
  ∀ es, recvW1msg w (maxW1NetlinkMsgSz + 1) c.origin.req (logged c.recvCb) c.stale (c.priv, [])
      (c.events ++ es) =
    recvLoop w (maxW1NetlinkMsgSz + 1) c.origin.req (logged c.recvCb) es c.nRcvMsgs c.recv

/-- What holds in every run. -/
structure Sys.Sound (s : Sys ι) : Prop where
  replies : ∀ i, ∀ x ∈ s.queue i, RepliesTo x.1.req x.2
  follows : ∀ i c, s.call i = some c → c.Follows w

variable {w}

/-- One more datagram. -/
theorem Call.Follows.next {c : Call ι} (h : c.Follows w) {d : Datagram}
    {r : RecvState (c.σ × List (W1NetlinkMsg × Bool))}
    (hr : recvDatagram w (maxW1NetlinkMsgSz + 1) c.origin.req (logged c.recvCb) d.toBytes c.recv =
      some (.ok r)) : (c.next d r).Follows w := by
  intro es
  have hloop := h (.datagram d.toBytes :: es)
  rw [recvLoop, hr] at hloop
  simp only [Call.next, List.append_assoc]
  exact hloop

theorem Sys.sound_init : (Sys.init : Sys ι).Sound w :=
  ⟨fun _ _ hx => absurd hx List.not_mem_nil, fun _ _ hc => (nomatch hc)⟩

section Step

variable [DecidableEq ι] {s s' : Sys ι} {i : ι}

/-- Every action keeps the calls at work in `recv_w1msg`, and the queues filled with replies to
requests that were sent. -/
theorem Sys.Sound.step (h : s.Sound w) {a : Act ι} (hs : s.step w a = some s') :
    s'.Sound w := by
  cases a with
  | send i pW1msg sendBuf sendOk σ recvCb priv stale =>
    -- a request that is not sent only counts the handle's sequence number up
    obtain ⟨hndl, rfl⟩ | ⟨sent, hndl, -, hsend, rfl⟩ := Sys.step_send w hs
    · exact ⟨h.replies, h.follows⟩
    · refine ⟨h.replies, fun j c hc => ?_⟩
      obtain ⟨-, rfl⟩ | ⟨-, hc⟩ := Sys.call_request hc
      · intro es
        rw [recvW1msg, if_neg (not_le.mpr (sendW1msg_request hsend).2.2)]
        rfl
      · exact h.follows j c hc
  | reply o d multicast =>
    obtain ⟨-, hd, hcall, -, -, hqueue⟩ := Sys.step_reply w hs
    refine ⟨fun j x hx => ?_, fun j c hc => h.follows j c (hcall ▸ hc)⟩
    obtain hx | rfl := hqueue j x hx
    · exact h.replies j x hx
    · exact hd
  | done o =>
    obtain rfl := Option.some.inj hs
    exact ⟨h.replies, h.follows⟩
  | recv i =>
    obtain ⟨c, o, d, r, hc, -, hrun, -, rfl⟩ := Sys.step_recv w (h.replies i) hs
    refine ⟨fun j x hx => h.replies j x (Sys.mem_queue_received hx), fun j c' hc' => ?_⟩
    obtain ⟨-, rfl⟩ | hc' := Sys.call_received hc'
    · exact (h.follows i c hc).next hrun
    · exact h.follows j c' hc'
  | timeout i =>
    obtain rfl := Sys.step_leave w (.inl rfl) hs
    exact ⟨h.replies, fun j c hc => h.follows j c (Sys.call_leave hc)⟩
  | error i =>
    obtain rfl := Sys.step_leave w (.inr rfl) hs
    exact ⟨h.replies, fun j c hc => h.follows j c (Sys.call_leave hc)⟩

/-- In every run, the calls are at work in `recv_w1msg`: their rounds are those of its receive
loop, so that what is said of the system is said of the function. -/
theorem Sys.call_follows {as : List (Act ι)} (h : Run.run (Sys.step w) Sys.init as = some s)
    {c : Call ι} (hc : s.call i = some c) : c.Follows w :=
  (Run.run_invariant (fun _ _ _ hs _ ha => Sys.Sound.step hs ha) Sys.sound_init
    (Run.meets_true _ as) h).follows i c hc

end Step

/-! ### Telling requests apart -/

/-- A reply to `o` passes the filters of a request with a given sequence number and w1
message. -/
def Confusable (seq : UInt32) (w1req : W1NetlinkMsg) (o : Origin ι) : Prop :=
  o.req.seq = seq ∧ Answers w1req (w1Req o.req)

/-- The requests whose replies may still come to a handle. -/
def Sys.inFlight (s : Sys ι) (i : ι) : List (Origin ι) :=
  s.outstanding ++ (s.queue i).map Prod.fst

/-- The callback may be called again. -/
def Call.Wants (c : Call ι) : Prop := c.recv.moreStat ≠ .noMore

/-- A request that can be told apart from all others when it is sent on handle `i`: no reply
that may still come to the handle passes its filters, and no other call that wants replies has
filters that its own replies pass. -/
structure Sys.Distinct (s : Sys ι) (i : ι) (seq : UInt32) (w1req : W1NetlinkMsg) : Prop where
  inFlight : ∀ o ∈ s.inFlight i, ¬ Confusable seq w1req o
  call : ∀ j c, s.call j = some c → c.Wants → ¬ Confusable seq w1req c.origin

/-- Every request that goes out can be told apart from all others. -/
def SendsDistinct (s : Sys ι) : Act ι → Prop
  | .send i pW1msg sendBuf sendOk .. =>
    sendOk = true → (sendW1msg (s.hndl i) pW1msg sendBuf).1.isOk = true →
      s.Distinct i ((s.hndl i).seq % seqRange) (w1MsgAt pW1msg 0)
  | _ => True

/-- To answer a request is to be alike in type and id. -/
theorem Answers.symm {a b : W1NetlinkMsg} (h : Answers a b) : Answers b a :=
  ⟨h.1.symm, fun hb => (h.2.1 (h.1 ▸ hb)).symm, fun hb => (h.2.2 (h.1 ▸ hb)).symm⟩

/-- A w1 message that is handed on passes the filters. -/
theorem confusable_of_mem_arrived {o : Origin ι} {req : CnMsg} {d : Datagram}
    (hd : RepliesTo o.req d) {r : W1NetlinkMsg × Bool} (hr : r ∈ d.arrived req) :
    Confusable req.seq (w1Req req) o := by
  obtain ⟨x, hx, -⟩ := List.mem_map.mp hr
  obtain ⟨hx, hans⟩ := List.mem_filter.mp hx
  obtain ⟨c, hc, hx⟩ := List.mem_flatMap.mp hx
  obtain ⟨hc, hreply⟩ := List.mem_filter.mp hc
  obtain ⟨y, hy, rfl⟩ := List.mem_map.mp hx
  have hcns : c ∈ d.cns := d.received_append_cutOff ▸ List.mem_append_left _ hc
  obtain ⟨hown, -, hrepeats⟩ := hd c hcns
  obtain ⟨htype, hid⟩ := hrepeats y hy
  have hseq : c.seq = req.seq := (of_decide_eq_true hreply).2.2
  have hans : Answers (w1Req req) y := of_decide_eq_true hans
  refine ⟨hown.2.2.symm.trans hseq, ?_⟩
  rw [Answers, W1NetlinkMsg.mstId, ← htype, ← hid]
  exact hans

/-- A callback that wants nothing more, or is handed nothing, is not called. -/
theorem deliver_logged_of_ne {σ : Type} {recvCb : RecvW1msgCb σ}
    {rs : List (W1NetlinkMsg × Bool)}
    {s s' : W1msgMoreStat × σ × List (W1NetlinkMsg × Bool)}
    (h : s' = deliver (logged recvCb) rs s) (hne : s'.2.2 ≠ s.2.2) :
    s.1 ≠ .noMore ∧ ∃ r, r ∈ rs := by
  constructor
  · intro hno
    rw [h, deliver_noMore _ hno] at hne
    exact hne rfl
  · refine List.exists_mem_of_ne_nil rs ?_
    rintro rfl
    rw [h] at hne
    exact hne rfl

/-! ### Isolation -/

/-- What holds in every state of a run whose requests can all be told apart. -/
structure Sys.Isolated (s : Sys ι) : Prop where
  /-- What passes the filters of a call is a reply to its own request. -/
  own : ∀ i c, s.call i = some c → c.Wants → ∀ o ∈ s.inFlight i,
    Confusable c.origin.req.seq (w1Req c.origin.req) o → o = c.origin
  handed : ∀ x ∈ s.handed, x.1 = x.2

theorem Sys.isolated_init : (Sys.init : Sys ι).Isolated :=
  ⟨fun _ _ hc => (nomatch hc), fun _ hx => absurd hx List.not_mem_nil⟩

/-- Nothing changes when no reply and no call is new. -/
theorem Sys.Isolated.of_subset {s s' : Sys ι} (h : s.Isolated)
    (hflight : ∀ i, ∀ o ∈ s'.inFlight i, o ∈ s.inFlight i)
    (hcall : ∀ i c', s'.call i = some c' →
      ∃ c, s.call i = some c ∧ c'.origin = c.origin ∧ (c'.Wants → c.Wants))
    (hhanded : ∀ x ∈ s'.handed, x.1 = x.2) : s'.Isolated := by
  refine ⟨fun i c' hc' hwants o ho hconf => ?_, hhanded⟩
  obtain ⟨c, hc, horigin, hw⟩ := hcall i c' hc'
  rw [horigin] at hconf ⊢
  exact h.own i c hc (hw hwants) o (hflight i o ho) hconf

section Isolated

variable [DecidableEq ι] {s s' : Sys ι} {i : ι}

/-- A request that can be told apart keeps the handles isolated. -/
theorem Sys.Isolated.request (h : s.Isolated) {hndl : W1Hndl} {req : CnMsg}
    (hdist : s.Distinct i req.seq (w1Req req)) {σ : Type} (recvCb : RecvW1msgCb σ) (priv : σ)
    (stale : Mem UInt8) : (s.request i hndl req recvCb priv stale).Isolated := by
  refine ⟨fun j c hc hwants o ho hconf => ?_, h.handed⟩
  have hflight : o ∈ s.inFlight j ∨ o = ⟨s.tickets, i, req⟩ := by
    simp only [Sys.inFlight, Sys.request, List.mem_append, List.mem_singleton] at ho ⊢
    tauto
  obtain ⟨rfl, rfl⟩ | ⟨-, hc⟩ := Sys.call_request hc
  · exact hflight.resolve_left fun ho => hdist.inFlight o ho hconf
  · obtain ho | rfl := hflight
    · exact h.own j c hc hwants o ho hconf
    · exact absurd ⟨hconf.1.symm, hconf.2.symm⟩ (hdist.call j c hc hwants)

/-- Isolated handles process replies to their own requests: what is handed on of any other
datagram in the queue is nothing, as it does not pass the filters. -/
theorem Sys.Isolated.received (h : s.Isolated) {c : Call ι} {o : Origin ι} {d : Datagram}
    {r : RecvState (c.σ × List (W1NetlinkMsg × Bool))} (hc : s.call i = some c)
    (hmem : (o, d) ∈ s.queue i) (hd : RepliesTo o.req d)
    (hr : (r.moreStat, r.priv) =
      deliver (logged c.recvCb) (d.arrived c.origin.req) (c.recv.moreStat, c.recv.priv)) :
    (s.received i c o d r).Isolated := by
  refine h.of_subset ?_ ?_ ?_
  · intro j o' ho'
    simp only [Sys.inFlight, List.mem_append, List.mem_map] at ho' ⊢
    exact ho'.imp_right fun ⟨x, hx, hxo⟩ => ⟨x, Sys.mem_queue_received hx, hxo⟩
  · intro j c' hc'
    obtain ⟨rfl, rfl⟩ | hc' := Sys.call_received hc'
    · refine ⟨c, hc, rfl, fun hwants hno => hwants ?_⟩
      rw [deliver_noMore _ hno] at hr
      exact (congrArg Prod.fst hr).trans hno
    · exact ⟨c', hc', rfl, id⟩
  · intro x hx
    obtain hx | hx := List.mem_append.mp hx
    · exact h.handed x hx
    -- the callback was called if and only if its log grew
    by_cases hlog : r.priv.2 = c.recv.priv.2
    · rw [if_pos hlog] at hx
      exact absurd hx List.not_mem_nil
    · rw [if_neg hlog, List.mem_singleton] at hx
      -- what it was called on passed the filters, so only the call's own request explains it
      obtain ⟨hwants, y, hy⟩ := deliver_logged_of_ne hr hlog
      have ho : o ∈ s.inFlight i :=
        List.mem_append_right _ (List.mem_map.mpr ⟨(o, d), hmem, rfl⟩)
      rw [hx, h.own i c hc hwants o ho (confusable_of_mem_arrived hd hy)]

theorem Sys.Isolated.leave (h : s.Isolated) (i : ι) : (s.leave i).Isolated :=
  h.of_subset (fun _ _ ho => ho) (fun _ c hc => ⟨c, Sys.call_leave hc, rfl, id⟩) h.handed

/-- **One step.** Every action keeps the handles isolated, when a request that goes out can be
told apart. The kernel repeats the number of a request in its replies, and a round of a
receive loop takes a datagram off its queue. -/
theorem Sys.Isolated.step (h : s.Isolated) (hsound : s.Sound w) {a : Act ι}
    (hok : SendsDistinct s a) (hs : s.step w a = some s') : s'.Isolated := by
  cases a with
  | send i pW1msg sendBuf sendOk σ recvCb priv stale =>
    obtain ⟨hndl, rfl⟩ | ⟨sent, hndl, hsendOk, hsend, rfl⟩ := Sys.step_send w hs
    · exact ⟨h.own, h.handed⟩
    · obtain ⟨hseq, hreq, -⟩ := sendW1msg_request hsend
      have hdist := hok hsendOk (by rw [hsend]; rfl)
      rw [← hseq, ← hreq] at hdist
      exact h.request hdist recvCb priv stale
  | reply o d multicast =>
    obtain ⟨ho, -, hcall, hout, hhanded, hqueue⟩ := Sys.step_reply w hs
    refine h.of_subset ?_ (fun j c hc => ⟨c, hcall ▸ hc, rfl, id⟩) (hhanded ▸ h.handed)
    intro j o' ho'
    rw [Sys.inFlight, hout, List.mem_append, List.mem_map] at ho'
    obtain ho' | ⟨x, hx, rfl⟩ := ho'
    · exact List.mem_append_left _ ho'
    obtain hx | rfl := hqueue j x hx
    · exact List.mem_append_right _ (List.mem_map.mpr ⟨x, hx, rfl⟩)
    · exact List.mem_append_left _ ho
  | done o =>
    obtain rfl := Option.some.inj hs
    refine h.of_subset ?_ (fun j c hc => ⟨c, hc, rfl, id⟩) h.handed
    intro j o' ho'
    simp only [Sys.inFlight, List.mem_append] at ho' ⊢
    exact ho'.imp_left fun ho' => (List.mem_filter.mp ho').1
  | recv i =>
    obtain ⟨c, o, d, r, hc, hmem, -, hr, rfl⟩ := Sys.step_recv w (hsound.replies i) hs
    exact h.received hc hmem (hsound.replies i _ hmem) hr
  | timeout i => exact Sys.step_leave w (.inl rfl) hs ▸ h.leave i
  | error i => exact Sys.step_leave w (.inr rfl) hs ▸ h.leave i

/-- **Isolated handles.** In a run whose requests can all be told apart when they are sent, every
reply that a callback processes is a reply to the request of its own call. -/
theorem Sys.handed_own {as : List (Act ι)}
    (hok : Run.Meets (Sys.step w) SendsDistinct Sys.init as)
    (h : Run.run (Sys.step w) Sys.init as = some s) : ∀ x ∈ s.handed, x.1 = x.2 := by
  have hinv : s.Sound w ∧ s.Isolated := by
    refine Run.run_invariant (I := fun t : Sys ι => t.Sound w ∧ t.Isolated) ?_
      ⟨Sys.sound_init, Sys.isolated_init⟩ hok h
    rintro t a t' ⟨hsound, hisolated⟩ ha ht
    exact ⟨hsound.step ht, hisolated.step hsound ha ht⟩
  exact hinv.2.handed

end Isolated

/-! ### A reply that goes astray -/

/-- The w1 message of a status reply. -/
def statusMsg (req : CnMsg) : W1NetlinkMsg :=
  ⟨(w1Req req).type, 0, (w1Req req).id, [], W1NetlinkMsg.noData_lt⟩

theorem length_statusMsg (req : CnMsg) : (statusMsg req).toBytes.length = 12 :=
  W1NetlinkMsg.length_toBytes _

theorem length_statusMsg_lt (req : CnMsg) : (statusMsg req).toBytes.length < 65536 :=
  (length_statusMsg req).trans_lt (by decide)

/-- The status reply to a request. -/
def statusReply (req : CnMsg) : Datagram :=
  singleReply req.seq ackStatVal (statusMsg req) (length_statusMsg_lt req)

theorem repliesTo_statusReply (req : CnMsg) : RepliesTo req (statusReply req) := by
  intro c hc
  rw [statusReply, cns_singleReply, List.mem_singleton] at hc
  rw [hc]
  refine ⟨⟨rfl, rfl, rfl⟩, le_rfl, fun r hr => ?_⟩
  rw [List.mem_singleton.mp hr]
  exact ⟨rfl, rfl⟩

/-- The status reply to a request passes the filters of every request it is confused with. -/
theorem arrived_statusReply {req : CnMsg} {o : Origin ι}
    (h : Confusable req.seq (w1Req req) o) : ∃ r, (statusReply o.req).arrived req = [r] := by
  have hlen : (statusMsg o.req).toBytes.length ≤ 4076 :=
    (length_statusMsg o.req).trans_le (by decide)
  rw [statusReply, h.1]
  exact ⟨_, arrived_singleReply _ hlen h.2⟩

/-- **The condition is needed.** While a request is outstanding, a call on any handle processes
the reply to it, when the reply passes its filters and is sent to all. -/
theorem Sys.handed_of_confusable [DecidableEq ι] (w : WordSize) {s : Sys ι} {i : ι} {c : Call ι}
    (hc : s.call i = some c) (hwants : c.Wants) (hq : s.queue i = []) {o : Origin ι}
    (ho : o ∈ s.outstanding) (hconf : Confusable c.origin.req.seq (w1Req c.origin.req) o) :
    ∃ s', Run.run (Sys.step w) s [.reply o (statusReply o.req) true, .recv i] = some s' ∧
      s'.handed = s.handed ++ [(c.origin, o)] := by
  obtain ⟨r, hrun, hr⟩ := recvDatagram_replies w c.origin.req
    (repliesTo_statusReply o.req) c.recvCb c.recv
  -- one message of the reply gets through, so the log grows
  obtain ⟨x, hx⟩ := arrived_statusReply hconf
  have hlog : r.priv.2 ≠ c.recv.priv.2 := by
    have hms : (c.recv.moreStat, c.recv.priv).1 ≠ .noMore := hwants
    rw [hx, deliver_cons _ _ hms] at hr
    have hpriv : r.priv.2 = c.recv.priv.2 ++ [(x.1, x.2)] := congrArg (fun t => t.2.2) hr
    rw [hpriv]
    simp
  obtain ⟨s₁, hs₁⟩ : ∃ s₁, s₁ = { s with
    queue := fun j => if true ∨ j = o.hndl then s.queue j ++ [(o, statusReply o.req)]
      else s.queue j } := ⟨_, rfl⟩
  have hreply : s.step w (.reply o (statusReply o.req) true) = some s₁ := by
    rw [hs₁]
    exact if_pos ⟨ho, repliesTo_statusReply o.req⟩
  have hcall : s₁.call i = some c := hs₁ ▸ hc
  have hqueue : s₁.queue i = [(o, statusReply o.req)] := by
    rw [hs₁]
    simp [hq]
  have hrecv : s₁.step w (.recv i) = some (s₁.received i c o (statusReply o.req) r) := by
    simp only [Sys.step, hcall, hqueue, hrun]
  refine ⟨_, (Run.run_cons hreply _).trans (Run.run_cons hrecv _), ?_⟩
  have hhanded : s₁.handed = s.handed := by rw [hs₁]
  rw [Sys.received, if_neg hlog, hhanded]

end Model

/-! ### Two handles that list and search -/

/-- A listing as a call on a handle. -/
def listingAct (w1msg : W1NetlinkMsg) (recvCb : RecvW1msgCb ListCbDta) (elemSz : ℕ)
    (srchCmd : UInt8) (i : Bool) : Act Bool :=
  .send i (ofBytes w1msg.toBytes) (fun _ => 0) true ListCbDta recvCb
    ⟨elemSz, 100, 8, 0, 0, 0, srchCmd, []⟩ (fun _ => 0)

/-- The first request on a fresh handle goes out. -/
theorem step_listingAct (w : WordSize) {s : Sys Bool} {i : Bool} (hcall : s.call i = none)
    (hhndl : s.hndl i = w1Init) {w1msg : W1NetlinkMsg} (h : w1msg.toBytes.length ≤ 1024)
    (recvCb : RecvW1msgCb ListCbDta) (elemSz : ℕ) (srchCmd : UInt8) :
    s.step w (listingAct w1msg recvCb elemSz srchCmd i) =
      some (s.request i ⟨1⟩ (requestMsg 0 w1msg.toBytes (by omega)) recvCb
        ⟨elemSz, 100, 8, 0, 0, 0, srchCmd, []⟩ (fun _ => 0)) := by
  obtain ⟨hgt, -⟩ | ⟨-, _, hok⟩ :=
    sendW1msg_cases w1Init (ofBytes w1msg.toBytes) (fun _ => 0) (read_ofBytes_toBytes w1msg)
  · simp only [nlmsgAlign, nlmsgLength, sizeofCnMsg, nlmsgHdrlen, maxW1NetlinkMsgSz] at hgt
    omega
  · simp only [listingAct, Sys.step, hcall, hhndl, hok]
    rfl

/-- A first request. -/
def firstRequest (ticket : ℕ) (i : Bool) (w1msg : W1NetlinkMsg)
    (h : w1msg.toBytes.length ≤ 1024) : Origin Bool :=
  ⟨ticket, i, requestMsg 0 w1msg.toBytes (by omega)⟩

/-- Two handles send their first requests, and one of the two is answered. -/
def answeredRun (a b : Bool → Act Bool) (o : Origin Bool) : List (Act Bool) :=
  [a false, b true, .reply o (statusReply o.req) true, .recv true]

/-- The second handle processes the reply, to whichever request it is, that passes its
filters. -/
theorem run_answeredRun (w : WordSize) {a b : W1NetlinkMsg} (ha : a.toBytes.length ≤ 1024)
    (hb : b.toBytes.length ≤ 1024) (aCb bCb : RecvW1msgCb ListCbDta) (aSz bSz : ℕ)
    (aSrch bSrch : UInt8) {o : Origin Bool}
    (ho : o = firstRequest 0 false a ha ∨ o = firstRequest 1 true b hb)
    (hconf : Confusable 0 b o) :
    ∃ s, Run.run (Sys.step w) Sys.init
        (answeredRun (listingAct a aCb aSz aSrch) (listingAct b bCb bSz bSrch) o) = some s ∧
      s.handed = [(firstRequest 1 true b hb, o)] := by
  have hfirst := step_listingAct w (s := Sys.init) (i := false) rfl rfl ha aCb aSz aSrch
  obtain ⟨s₁, hs₁⟩ : ∃ s₁, s₁ = (Sys.init : Sys Bool).request false ⟨1⟩
    (requestMsg 0 a.toBytes (by omega)) aCb ⟨aSz, 100, 8, 0, 0, 0, aSrch, []⟩ (fun _ => 0) :=
    ⟨_, rfl⟩
  rw [← hs₁] at hfirst
  have hsecond := step_listingAct w (s := s₁) (i := true) (hs₁ ▸ rfl) (hs₁ ▸ rfl) hb bCb bSz bSrch
  obtain ⟨s₂, hs₂⟩ : ∃ s₂, s₂ = s₁.request true ⟨1⟩ (requestMsg 0 b.toBytes (by omega)) bCb
    ⟨bSz, 100, 8, 0, 0, 0, bSrch, []⟩ (fun _ => 0) := ⟨_, rfl⟩
  rw [← hs₂] at hsecond
  have hout : s₂.outstanding = [firstRequest 0 false a ha, firstRequest 1 true b hb] := by
    rw [hs₂, hs₁]
    rfl
  obtain ⟨c, hc, horigin, hwants⟩ : ∃ c, s₂.call true = some c ∧
      c.origin = firstRequest 1 true b hb ∧ c.Wants := by
    rw [hs₂, hs₁]
    exact ⟨_, rfl, rfl, show W1msgMoreStat.moreReq ≠ .noMore by decide⟩
  have hqueue : s₂.queue true = [] := by
    rw [hs₂, hs₁]
    rfl
  have hconf' : Confusable c.origin.req.seq (w1Req c.origin.req) o := by
    rw [horigin, firstRequest, w1Req_requestMsg]
    exact hconf
  obtain ⟨s, hrun, hhanded⟩ := Sys.handed_of_confusable w hc hwants hqueue
    (show o ∈ s₂.outstanding by rw [hout]; simpa using ho) hconf'
  refine ⟨s, ?_, ?_⟩
  · rw [answeredRun, Run.run_cons hfirst, Run.run_cons hsecond, hrun]
  · rw [hhanded, horigin, hs₂, hs₁]
    rfl

/-- The request of `list_w1_masters`. -/
def mastersRequest : W1NetlinkMsg := ⟨w1ListMasters, 0, 0, [], W1NetlinkMsg.noData_lt⟩

/-- Both handles list the masters; the first is answered. -/
def strayRun : List (Act Bool) :=
  answeredRun (listingAct mastersRequest (listMastsCb .lp64) 4 0)
    (listingAct mastersRequest (listMastsCb .lp64) 4 0)
    (firstRequest 0 false mastersRequest (by decide))

/-- The second handle processes the reply to the first. -/
theorem not_handed_own_strayRun :
    ∃ s, Run.run (Sys.step .lp64) Sys.init strayRun = some s ∧
      s.handed = [(firstRequest 1 true mastersRequest (by decide),
        firstRequest 0 false mastersRequest (by decide))] ∧
      ¬ ∀ x ∈ s.handed, x.1 = x.2 := by
  obtain ⟨s, hrun, hhanded⟩ := run_answeredRun .lp64 (a := mastersRequest) (b := mastersRequest)
    (by decide) (by decide) (listMastsCb .lp64) (listMastsCb .lp64) 4 4 0 0 (.inl rfl)
    ⟨rfl, by decide⟩
  refine ⟨s, hrun, hhanded, fun hown => ?_⟩
  rw [hhanded] at hown
  exact absurd (congrArg Origin.ticket (hown _ List.mem_cons_self)) (by decide)

/-- One handle lists the masters while the other searches for slaves, and the search is
answered. -/
def ownRun : List (Act Bool) :=
  answeredRun (listingAct mastersRequest (listMastsCb .lp64) 4 0)
    (listingAct (searchRequest w1CmdSearch 1) (searchSlavsCb .lp64) 8 w1CmdSearch)
    (firstRequest 1 true (searchRequest w1CmdSearch 1) (by decide))

/-- A search cannot be confused with a listing of masters. -/
theorem not_confusable_search {seq : UInt32} (ticket : ℕ) (i : Bool) :
    ¬ Confusable seq (w1MsgAt (ofBytes (searchRequest w1CmdSearch 1).toBytes) 0)
      (firstRequest ticket i mastersRequest (by decide)) := by
  rintro ⟨-, hans⟩
  have htype := hans.1
  rw [W1NetlinkMsg.w1MsgAt_toBytes, firstRequest, w1Req_requestMsg] at htype
  exact absurd htype (by decide)

theorem meets_ownRun (w : WordSize) : Run.Meets (Sys.step w) SendsDistinct Sys.init ownRun := by
  have hfirst := step_listingAct w (s := Sys.init) (i := false) rfl rfl
    (show mastersRequest.toBytes.length ≤ 1024 by decide) (listMastsCb .lp64) 4 0
  have hdist : SendsDistinct (Sys.init : Sys Bool)
      (listingAct mastersRequest (listMastsCb .lp64) 4 0 false) :=
    fun _ _ => ⟨fun o ho => absurd ho List.not_mem_nil, fun j c hc => (nomatch hc)⟩
  refine Run.meets_cons hdist hfirst ⟨fun _ _ => ⟨?_, ?_⟩, fun _ _ =>
    ⟨trivial, fun _ _ => ⟨trivial, fun _ _ => trivial⟩⟩⟩
  · intro o ho
    have ho : o = firstRequest 0 false mastersRequest (by decide) := List.mem_singleton.mp ho
    rw [ho]
    exact not_confusable_search 0 false
  · intro j c hc _
    obtain ⟨-, rfl⟩ | ⟨-, hc⟩ := Sys.call_request hc
    · exact not_confusable_search 0 false
    · exact nomatch hc

/-- The search processes the reply to itself. -/
theorem handed_own_ownRun :
    ∃ s, Run.run (Sys.step .lp64) Sys.init ownRun = some s ∧ s.handed ≠ [] ∧
      ∀ x ∈ s.handed, x.1 = x.2 := by
  obtain ⟨s, hrun, hhanded⟩ := run_answeredRun .lp64 (a := mastersRequest)
    (b := searchRequest w1CmdSearch 1) (by decide) (by decide) (listMastsCb .lp64)
    (searchSlavsCb .lp64) 4 8 0 w1CmdSearch (.inr rfl) ⟨rfl, by decide⟩
  exact ⟨s, hrun, by rw [hhanded]; simp, Sys.handed_own (meets_ownRun .lp64) hrun⟩

end Librasp
