import Librasp.W1.Decode

/-!
# Which command a reply belongs to

Replies carry no number. `w1msg_exec_cb` tells which command a reply belongs to from the command
codes and from two counters: `n_prc_cmds`, the command it is at, and `cmd_msgs`, the replies taken
for it. A reply with the code of the current command is taken for it, however many there were
before.

`outstanding` counts the replies that the callback still requires. A group of replies to one
command lowers it by at most one, and it starts at the number of commands that require a reply, so
an execution can succeed only if every such command has a group of its own that lowers it. Two
neighbouring reads share one group, unless something in between moves the callback on.
`Attributable` says which lists of commands and replies the callback gets right.

* `ReplyFor.outcome` is what the callback makes of one reply, in any state: it stays at its
  command, moves on to a later one with the code, or gives up.
* `OnTrack` and `InGroup` are the states in which the callback has taken every reply for its own
  command, between two groups of replies and within one.

**Main result.** `OnTrack.complete_iff`: from a state on track the execution completes exactly
when the replies to come can be told apart, and it then writes what they bring.
-/

namespace Librasp

/-! ### Outstanding replies -/

/-- How many of the commands of a message from index `i` on require a reply. -/
def W1Msg.respFrom (m : W1Msg) (i : ℕ) : ℕ :=
  (m.cmdList.drop i).countP fun c => c.type.isRespRequired

theorem W1Msg.drop_cmdList (m : W1Msg) {i : ℕ} (h : i < m.nCmds) :
    m.cmdList.drop i = m.cmds i :: m.cmdList.drop (i + 1) := by
  have hi : i < m.cmdList.length := by simpa using h
  rw [List.drop_eq_getElem_cons hi, m.getElem_cmdList]

theorem W1Msg.respFrom_of_le (m : W1Msg) {i : ℕ} (h : m.nCmds ≤ i) : m.respFrom i = 0 := by
  rw [W1Msg.respFrom, List.drop_eq_nil_of_le (by simpa using h), List.countP_nil]

theorem W1Msg.respFrom_of_lt (m : W1Msg) {i : ℕ} (h : i < m.nCmds) :
    m.respFrom i = m.respFrom (i + 1) + if (m.cmds i).type.isRespRequired then 1 else 0 := by
  rw [W1Msg.respFrom, m.drop_cmdList h, List.countP_cons, W1Msg.respFrom]

/-- The final loop of the callback asks for more exactly when a later command requires a
reply. -/
theorem respAfter_eq_moreReq_iff (m : W1Msg) (i : ℕ) :
    (respAfter m m.nCmds i).1 = .moreReq ↔ 0 < m.respFrom i := by
  rw [W1Msg.respFrom, List.countP_pos_iff]
  constructor
  · intro hreq
    rcases respAfter_fst m (Nat.sub_le m.nCmds i) with ⟨-, j, hj, hlt, hresp⟩ | h
    · have hdrop : j - i < (m.cmdList.drop i).length := by simp; omega
      refine ⟨(m.cmdList.drop i)[j - i], List.getElem_mem hdrop, ?_⟩
      rw [List.getElem_drop, W1Msg.getElem_cmdList, Nat.add_sub_cancel' hj]
      exact hresp
    · rw [h.1] at hreq
      cases hreq
  · rintro ⟨c, hc, hresp⟩
    obtain ⟨k, hk, rfl⟩ := List.getElem_of_mem hc
    rw [List.getElem_drop, W1Msg.getElem_cmdList] at hresp
    rw [List.length_drop, W1Msg.length_cmdList] at hk
    rcases respAfter_fst m (Nat.sub_le m.nCmds i) with h | ⟨-, hnone⟩
    · exact h.1
    · rw [hnone (i + k) (by omega) (by omega)] at hresp
      cases hresp

/-- The final loop never answers that there is no more. -/
theorem respAfter_ne_noMore (m : W1Msg) (i : ℕ) : (respAfter m m.nCmds i).1 ≠ .noMore := by
  rcases respAfter_fst m (Nat.sub_le m.nCmds i) with h | h
  · rw [h.1]
    rintro ⟨⟩
  · rw [h.1]
    rintro ⟨⟩

namespace W1msgExecCbDta

/-- The current command requires a reply and has one. -/
def Replied (s : W1msgExecCbDta) : Prop := s.cur.type.isRespRequired = true ∧ 0 < s.cmdMsgs

instance (s : W1msgExecCbDta) : Decidable s.Replied := inferInstanceAs (Decidable (_ ∧ _))

/-- The type of the current command, when it is one that has the reply it requires. -/
def repliedType (s : W1msgExecCbDta) : Option W1CmdType :=
  if s.Replied then some s.cur.type else none

/-- How many replies the callback still requires. -/
def outstanding (s : W1msgExecCbDta) : ℕ :=
  s.w1msg.respFrom s.nPrcCmds - if s.Replied then 1 else 0

/-- What is outstanding at a command: its own reply, when it has none, and the later ones. -/
theorem outstanding_eq (s : W1msgExecCbDta) (hlt : s.nPrcCmds < s.w1msg.nCmds) :
    s.outstanding = s.w1msg.respFrom (s.nPrcCmds + 1) +
      if s.cur.type.isRespRequired = true ∧ s.cmdMsgs = 0 then 1 else 0 := by
  have hfrom : s.w1msg.respFrom s.nPrcCmds = s.w1msg.respFrom (s.nPrcCmds + 1) +
      if s.cur.type.isRespRequired then 1 else 0 := s.w1msg.respFrom_of_lt hlt
  rw [outstanding, hfrom]
  by_cases hresp : s.cur.type.isRespRequired = true
  · rcases Nat.eq_zero_or_pos s.cmdMsgs with hzero | hpos
    · simp [Replied, hresp, hzero]
    · simp [Replied, hresp, hpos, hpos.ne']
  · simp [Replied, hresp]

/-- Moving on from a command that needs no reply, or has one, leaves as many outstanding. -/
theorem outstanding_next (s : W1msgExecCbDta) (hlt : s.nPrcCmds < s.w1msg.nCmds)
    (hpass : s.cur.type.isRespRequired = false ∨ 0 < s.cmdMsgs) :
    s.next.outstanding = s.outstanding := by
  have hnext : ¬ s.next.Replied := fun h => absurd h.2 (Nat.lt_irrefl 0)
  have hnone : ¬ (s.cur.type.isRespRequired = true ∧ s.cmdMsgs = 0) := by
    rintro ⟨hresp, hzero⟩
    rcases hpass with hno | hpos
    · rw [hresp] at hno
      cases hno
    · omega
  rw [s.outstanding_eq hlt, if_neg hnone, outstanding, if_neg hnext]
  rfl

/-- Once the current command has a reply, what is outstanding are the replies to later ones. -/
theorem outstanding_of_pos (s : W1msgExecCbDta) (hlt : s.nPrcCmds < s.w1msg.nCmds)
    (hpos : 0 < s.cmdMsgs) : s.outstanding = s.w1msg.respFrom (s.nPrcCmds + 1) := by
  rw [s.outstanding_eq hlt, if_neg fun h => hpos.ne' h.2, Nat.add_zero]

/-- A type that requires no reply has none. -/
theorem repliedType_ne (s : W1msgExecCbDta) {type : W1CmdType} (hno : type.isRespRequired = false) :
    s.repliedType ≠ some type := by
  rw [repliedType, Ne, Option.ite_none_right_eq_some]
  rintro ⟨⟨hcur, -⟩, heq⟩
  rw [Option.some.inj heq, hno] at hcur
  cases hcur

/-- The type of a current command that has a reply. -/
theorem repliedType_of_pos (s : W1msgExecCbDta) (hpos : 0 < s.cmdMsgs) :
    s.repliedType = if s.cur.type.isRespRequired then some s.cur.type else none := by
  rw [repliedType]
  by_cases hresp : s.cur.type.isRespRequired = true
  · rw [if_pos ⟨hresp, hpos⟩, if_pos hresp]
  · rw [if_neg fun h => hresp h.1, if_neg hresp]

end W1msgExecCbDta

/-- Different command types have different codes. -/
theorem convertCmdType_injective (cfg : Config) : Function.Injective (convertCmdType cfg) := by
  intro a b h
  cases hcfg : cfg.writePullup <;> cases a <;> cases b <;>
    simp [convertCmdType, hcfg] at h ⊢

/-! ### One reply -/

section Reply

variable {cfg : Config}

/-- The callback has moved on from `s₀` to `s` in search of a command with a code: it passed
commands with other codes, none of which still needs a reply. -/
structure Reached (cfg : Config) (s₀ : W1msgExecCbDta) (code : UInt8) (s : W1msgExecCbDta) :
    Prop where
  w1msg : s.w1msg = s₀.w1msg
  status : s.status = s₀.status
  writes : s.writes = s₀.writes
  le : s₀.nPrcCmds ≤ s.nPrcCmds
  skipped : ∀ j, s₀.nPrcCmds ≤ j → j < s.nPrcCmds →
    code ≠ convertCmdType cfg (s₀.w1msg.cmds j).type ∧
      ((s₀.w1msg.cmds j).type.isRespRequired = false ∨ j = s₀.nPrcCmds ∧ 0 < s₀.cmdMsgs)
  cmdMsgs : s.nPrcCmds = s₀.nPrcCmds ∧ s.cmdMsgs = s₀.cmdMsgs ∨
    s₀.nPrcCmds < s.nPrcCmds ∧ s.cmdMsgs = 0
  outstanding : s.outstanding = s₀.outstanding

/-- The callback has taken a w1 command for the command it was at in `s₁`. -/
structure Taken (cfg : Config) (s₁ : W1msgExecCbDta) (w : W1NetlinkCmd) (s : W1msgExecCbDta) :
    Prop where
  lt : s₁.nPrcCmds < s₁.w1msg.nCmds
  code : w.cmd = convertCmdType cfg s₁.cur.type
  w1msg : s.w1msg = s₁.w1msg
  status : s.status = s₁.status
  nPrcCmds : s.nPrcCmds = s₁.nPrcCmds
  cmdMsgs : s.cmdMsgs = (s₁.cmdMsgs + 1) % 2 ^ 32
  writes : s.writes = s₁.writes ++
    if s₁.cur.type.isRespRequired = true ∧ 0 < w.len then [(s₁.cur.pData, w.data)] else []

/-- What comes of a reply of one w1 command. -/
inductive ReplyOutcome (cfg : Config) (s₀ : W1msgExecCbDta) (w : W1NetlinkCmd) :
    W1msgMoreStat → W1msgExecCbDta → Prop
  /-- There is no command left to take it for. -/
  | exhausted {s : W1msgExecCbDta} (h : Reached cfg s₀ w.cmd s)
      (hle : s.w1msg.nCmds ≤ s.nPrcCmds) : ReplyOutcome cfg s₀ w .noMore s
  /-- It is not the reply that the command reached requires. -/
  | failed {s s' : W1msgExecCbDta} (h : Reached cfg s₀ w.cmd s)
      (hlt : s.nPrcCmds < s.w1msg.nCmds) (hresp : s.cur.type.isRespRequired = true)
      (hbad : w.cmd ≠ convertCmdType cfg s.cur.type ∧ s.cmdMsgs = 0 ∨
        w.cmd = convertCmdType cfg s.cur.type ∧ 0 < w.len ∧
          (w.len ≠ s.cur.len ∨ s.cur.pData = 0))
      (hstatus : s'.status = enomsg) : ReplyOutcome cfg s₀ w .noMore s'
  | taken {ms : W1msgMoreStat} {s s' : W1msgExecCbDta} (h : Reached cfg s₀ w.cmd s)
      (ht : Taken cfg s w s') (hmore : ms ≠ .noMore)
      (hreq : ms = .moreReq ↔ 0 < s'.w1msg.respFrom (s'.nPrcCmds + 1)) :
      ReplyOutcome cfg s₀ w ms s'

/-- Passing one more command. -/
theorem Reached.next {s₀ s : W1msgExecCbDta} {code : UInt8} (h : Reached cfg s₀ code s)
    (hlt : s.nPrcCmds < s.w1msg.nCmds) (hcode : code ≠ convertCmdType cfg s.cur.type)
    (hpass : s.cur.type.isRespRequired = false ∨ 0 < s.cmdMsgs) : Reached cfg s₀ code s.next where
  w1msg := h.w1msg
  status := h.status
  writes := h.writes
  le := h.le.trans (Nat.le_succ _)
  skipped := by
    intro j hj hj'
    rcases Nat.lt_succ_iff_lt_or_eq.mp hj' with hlt' | rfl
    · exact h.skipped j hj hlt'
    · rw [W1msgExecCbDta.cur, h.w1msg] at hcode hpass
      refine ⟨hcode, hpass.imp_right fun hpos => ?_⟩
      -- only the command the callback started at can have replies
      rcases h.cmdMsgs with ⟨hprc, hmsgs⟩ | ⟨-, hzero⟩
      · exact ⟨hprc, hmsgs ▸ hpos⟩
      · omega
  cmdMsgs := .inr ⟨h.le.trans_lt (Nat.lt_succ_self _), rfl⟩
  outstanding := (s.outstanding_next hlt hpass).trans h.outstanding

/-- The callback stays at a command of the type that a reply is for. -/
theorem Reached.eq_of_code {s₀ s : W1msgExecCbDta} {code : UInt8} (h : Reached cfg s₀ code s)
    (hcode : code = convertCmdType cfg s₀.cur.type) :
    s.nPrcCmds = s₀.nPrcCmds ∧ s.cmdMsgs = s₀.cmdMsgs := by
  rcases h.cmdMsgs with heq | ⟨hlt, -⟩
  · exact heq
  · exact absurd hcode (h.skipped s₀.nPrcCmds le_rfl hlt).1

/-- The invariant of the callback's loops on a reply of one w1 command. -/
private inductive ReplyInv (cfg : Config) (s₀ : W1msgExecCbDta) (w : W1NetlinkCmd) :
    List W1NetlinkCmd → W1msgExecCbDta → Prop
  | before {s : W1msgExecCbDta} (h : Reached cfg s₀ w.cmd s) : ReplyInv cfg s₀ w [w] s
  | after {s s' : W1msgExecCbDta} (h : Reached cfg s₀ w.cmd s) (ht : Taken cfg s w s') :
    ReplyInv cfg s₀ w [] s'

/-- The callback's loops on a reply of one w1 command, as an instance of `ExecRule`: they move on
to a command with its code, take it there, or give up at a command that still needs a reply. -/
private theorem replyOutcome_rule (cfg : Config) (s₀ : W1msgExecCbDta) (w : W1NetlinkCmd)
    (w1msg : W1NetlinkMsg) (isStatus : Bool) (hst : isStatus = true → w1msg.status = 0) :
    ExecRule cfg w1msg isStatus (ReplyInv cfg s₀ w) (ReplyOutcome cfg s₀ w) where
  exhausted := by
    rintro _ s hinv hle
    cases hinv with
    | before h => exact .exhausted h hle
    | after h ht =>
      rw [ht.w1msg, ht.nPrcCmds] at hle
      exact absurd ht.lt (by omega)
  status := fun _ _ his hne => absurd (hst his) hne
  index := by
    rintro _ s hinv - -
    cases hinv with
    | before h => exact .before ⟨h.1, h.2, h.3, h.4, h.5, h.6, h.7⟩
    | after h ht => exact .after h ⟨ht.1, ht.2, ht.3, ht.4, ht.5, ht.6, ht.7⟩
  next := by
    rintro _ _ s hinv hlt - hcode hpass
    cases hinv with
    | before h => exact .before (h.next hlt hcode hpass)
  unexpected := by
    rintro _ _ s hinv hlt hcode hresp hzero
    cases hinv with
    | before h => exact .failed h hlt hresp (.inl ⟨hcode, hzero⟩) rfl
  badLen := by
    rintro _ _ s hinv hlt hcode hresp hpos hbad
    cases hinv with
    | before h => exact .failed h hlt hresp (.inr ⟨hcode, hpos, hbad⟩) rfl
  copy := by
    rintro _ _ s hinv hlt hcode hresp hpos hlen hdata
    cases hinv with
    | before h =>
      refine .after h ⟨hlt, hcode, rfl, rfl, rfl, rfl, ?_⟩
      rw [if_pos ⟨hresp, hpos⟩]
      rfl
  take := by
    rintro _ _ s hinv hlt hcode hnone
    cases hinv with
    | before h =>
      refine .after h ⟨hlt, hcode, rfl, rfl, rfl, rfl, ?_⟩
      rw [if_neg, List.append_nil]
      · rfl
      · rintro ⟨hresp, hpos⟩
        rcases hnone with hno | hlen
        · rw [hresp] at hno
          cases hno
        · omega
  done := by
    rintro s hinv - -
    cases hinv with
    | after h ht =>
      refine .taken h ⟨ht.1, ht.2, ht.3, ht.4, ht.5, ht.6, ht.7⟩ (respAfter_ne_noMore _ _) ?_
      exact respAfter_eq_moreReq_iff _ _

/-- A w1 message as a reply to a command: one w1 command with its code, with the command's
amount of data or none, and no error. -/
structure ReplyFor (cfg : Config) (c : W1Cmd) (r : W1NetlinkMsg × Bool) (w : W1NetlinkCmd) :
    Prop where
  status : r.2 = true → r.1.status = 0
  chain : W1NetlinkCmd.parser.chain r.1.data = [w]
  code : w.cmd = convertCmdType cfg c.type
  len : 0 < w.len → c.type.isRespRequired = true ∧ w.len = c.len

/-- What the callback makes of a reply to a command. -/
theorem ReplyFor.outcome {c : W1Cmd} {r : W1NetlinkMsg × Bool} {w : W1NetlinkCmd}
    (h : ReplyFor cfg c r w) {s s' : W1msgExecCbDta} {ms : W1msgMoreStat}
    (hp : w1msgExecCb cfg s r.1 r.2 = (ms, s')) : ReplyOutcome cfg s w ms s' := by
  have hrefl : Reached cfg s w.cmd { s with handed := s.handed ++ [(r.1, r.2)] } :=
    ⟨rfl, rfl, rfl, le_rfl, fun j hj hlt => absurd hlt (by dsimp only; omega), .inl ⟨rfl, rfl⟩,
      rfl⟩
  have hout := (replyOutcome_rule cfg s w r.1 r.2 h.status).w1msgExecCb
    (s := s) (h.chain ▸ ReplyInv.before hrefl)
  rwa [hp] at hout

/-! ### Replies in any state -/

theorem Taken.cur {s s' : W1msgExecCbDta} {w : W1NetlinkCmd} (h : Taken cfg s w s') :
    s'.cur = s.cur := by
  rw [W1msgExecCbDta.cur, h.w1msg, h.nPrcCmds, W1msgExecCbDta.cur]

theorem Taken.cmdMsgs_eq {s s' : W1msgExecCbDta} {w : W1NetlinkCmd} (h : Taken cfg s w s')
    (hmsgs : s.cmdMsgs + 1 < 2 ^ 32) : s'.cmdMsgs = s.cmdMsgs + 1 := by
  rw [h.cmdMsgs, Nat.mod_eq_of_lt hmsgs]

/-- The callback is at a command of a type and has taken a reply for it. -/
structure AtType (m : W1Msg) (t : W1CmdType) (s : W1msgExecCbDta) : Prop where
  w1msg : s.w1msg = m
  status : s.status = 0
  lt : s.nPrcCmds < m.nCmds
  type : s.cur.type = t
  cmdMsgs : 0 < s.cmdMsgs

/-- A reply that is taken: what it leaves outstanding. The callback is at a command of the reply's
type then, and the first reply to a command that requires one lowers the count. -/
theorem ReplyFor.atType {c : W1Cmd} {r : W1NetlinkMsg × Bool} {w : W1NetlinkCmd}
    (h : ReplyFor cfg c r w) {m : W1Msg} {s : W1msgExecCbDta} (hm : s.w1msg = m)
    (hs : s.status = 0) (hmsgs : s.cmdMsgs + 1 < 2 ^ 32) {ms : W1msgMoreStat}
    {s' : W1msgExecCbDta} (hp : w1msgExecCb cfg s r.1 r.2 = (ms, s')) :
    ms = .noMore ∧ (s'.status ≠ 0 ∨ s.outstanding = 0 ∧ s'.outstanding = 0) ∨
      ms ≠ .noMore ∧ (ms = .moreReq ↔ 0 < s'.outstanding) ∧ AtType m c.type s' ∧
        s'.cmdMsgs ≤ s.cmdMsgs + 1 ∧
        (s.outstanding = s'.outstanding ∨
          c.type.isRespRequired = true ∧ s.repliedType ≠ some c.type ∧
            s.outstanding = s'.outstanding + 1) := by
  cases h.outcome hp with
  | exhausted hr hle =>
    have hzero : s'.outstanding = 0 := by
      rw [W1msgExecCbDta.outstanding, s'.w1msg.respFrom_of_le hle, Nat.zero_sub]
    exact .inl ⟨rfl, .inr ⟨hr.outstanding ▸ hzero, hzero⟩⟩
  | failed hr hlt hresp hbad hstatus =>
    refine .inl ⟨rfl, .inl ?_⟩
    rw [hstatus]
    decide
  | @taken _ s₁ _ hr ht hmore hreq =>
    have hbound : s₁.cmdMsgs + 1 < 2 ^ 32 := by
      rcases hr.cmdMsgs with ⟨-, heq⟩ | ⟨-, hzero⟩ <;> omega
    have hcmdMsgs := ht.cmdMsgs_eq hbound
    have hle : s'.cmdMsgs ≤ s.cmdMsgs + 1 := by
      rcases hr.cmdMsgs with ⟨-, heq⟩ | ⟨-, hzero⟩ <;> omega
    have htype : s₁.cur.type = c.type :=
      convertCmdType_injective cfg (ht.code.symm.trans h.code)
    have hmsg : s'.w1msg = m := (ht.w1msg.trans hr.w1msg).trans hm
    have hlt : s'.nPrcCmds < s'.w1msg.nCmds := by
      rw [ht.w1msg, ht.nPrcCmds]
      exact ht.lt
    have hafter := s'.outstanding_of_pos hlt (by omega)
    refine .inr ⟨hmore, hafter ▸ hreq, ⟨hmsg, (ht.status.trans hr.status).trans hs, hmsg ▸ hlt,
      (ht.cur ▸ htype), by omega⟩, hle, ?_⟩
    -- the command reached had a reply already, or needs none, or this is its first
    rw [← hr.outstanding, s₁.outstanding_eq ht.lt, hafter, ht.w1msg, ht.nPrcCmds]
    by_cases hfirst : s₁.cur.type.isRespRequired = true ∧ s₁.cmdMsgs = 0
    · right
      refine ⟨htype ▸ hfirst.1, fun hprev => ?_, by rw [if_pos hfirst]⟩
      rw [W1msgExecCbDta.repliedType, Option.ite_none_right_eq_some] at hprev
      obtain ⟨hrep, hcur⟩ := hprev
      have hsame := hr.eq_of_code (h.code.trans (congrArg _ (Option.some.inj hcur).symm))
      have := hrep.2
      omega
    · left
      rw [if_neg hfirst, Nat.add_zero]

/-- After a reply, the callback asks for more exactly when something is outstanding, unless it
has met an error. -/
theorem deliver_moreReq_iff {rs : List (W1NetlinkMsg × Bool)}
    (hrs : ∀ r ∈ rs, ∃ c w, ReplyFor cfg c r w) (hne : rs ≠ []) {ms : W1msgMoreStat}
    (hms : ms ≠ .noMore) {s : W1msgExecCbDta} (hs : s.status = 0)
    (hmsgs : s.cmdMsgs + rs.length < 2 ^ 32) :
    let p := deliver (w1msgExecCb cfg) rs (ms, s)
    p.2.status = 0 → (p.1 = .moreReq ↔ 0 < p.2.outstanding) := by
  induction rs generalizing ms s with
  | nil => exact absurd rfl hne
  | cons r rs ih =>
    obtain ⟨c, w, hr⟩ := hrs r List.mem_cons_self
    rw [List.length_cons] at hmsgs
    rcases hp : w1msgExecCb cfg s r.1 r.2 with ⟨ms', s'⟩
    rw [deliver_step hms hp]
    rcases hr.atType rfl hs (by omega) hp with ⟨hno, herr⟩ | ⟨hgo, hreq, hat, hle, -⟩
    · rw [deliver_noMore rs hno]
      intro p hstatus
      rcases herr with herr | ⟨-, hzero⟩
      · exact absurd hstatus herr
      · refine ⟨fun hreq => ?_, fun hpos => absurd hzero hpos.ne'⟩
        rw [show ms' = .moreReq from hreq] at hno
        cases hno
    · rcases rs with _ | ⟨r', rs⟩
      · exact fun _ => hreq
      · exact ih (fun x hx => hrs x (List.mem_cons_of_mem _ hx)) (by simp) hgo hat.status
          (by omega)

/-! ### Too few replies -/

/-- A group of replies to one command leaves more than `k` outstanding, when there were more
than `k`, and one more than that if it may be the group's own command that is answered. -/
theorem behind_group {c : W1Cmd} {g : List (W1NetlinkMsg × Bool)}
    (hg : ∀ r ∈ g, ∃ w, ReplyFor cfg c r w) {m : W1Msg} {k : ℕ} {ms : W1msgMoreStat}
    (hms : ms ≠ .noMore) {s : W1msgExecCbDta} (hm : s.w1msg = m) (hs : s.status = 0)
    (hmsgs : s.cmdMsgs + g.length < 2 ^ 32) (hk : k < s.outstanding)
    (hk' : c.type.isRespRequired = true → s.repliedType ≠ some c.type → k + 1 < s.outstanding) :
    let p := deliver (w1msgExecCb cfg) g (ms, s)
    p.1 = .noMore ∧ p.2.status ≠ 0 ∨ p.1 ≠ .noMore ∧ p.2.w1msg = m ∧ p.2.status = 0 ∧
      p.2.cmdMsgs ≤ s.cmdMsgs + g.length ∧ k < p.2.outstanding := by
  induction g generalizing ms s with
  | nil => exact .inr ⟨hms, hm, hs, le_rfl, hk⟩
  | cons r g ih =>
    obtain ⟨w, hr⟩ := hg r List.mem_cons_self
    rw [List.length_cons] at hmsgs ⊢
    rcases hp : w1msgExecCb cfg s r.1 r.2 with ⟨ms', s'⟩
    rw [deliver_step hms hp]
    rcases hr.atType hm hs (by omega) hp with ⟨hno, herr⟩ | ⟨hgo, -, hat, hle, hout⟩
    · rw [deliver_noMore g hno]
      rcases herr with herr | ⟨hzero, -⟩
      · exact .inl ⟨hno, herr⟩
      · omega
    · -- a reply answers at most the command that the callback is at
      have hk₁ : k < s'.outstanding := by
        rcases hout with heq | ⟨hresp, hprev, heq⟩
        · omega
        · have := hk' hresp hprev
          omega
      have hprev : c.type.isRespRequired = true →
          s'.repliedType = some c.type := by
        intro hresp
        rw [s'.repliedType_of_pos hat.cmdMsgs, hat.type, if_pos hresp]
      rcases ih (fun x hx => hg x (List.mem_cons_of_mem _ hx)) hgo hat.w1msg hat.status (by omega)
        hk₁ (fun hresp hne => absurd (hprev hresp) hne) with h | ⟨h₁, h₂, h₃, h₄, h₅⟩
      · exact .inl h
      · exact .inr ⟨h₁, h₂, h₃, by omega, h₅⟩

/-- Groups of replies, one for each of some commands. -/
def RepliesFor (cfg : Config) (cmds : List W1Cmd) (gs : List (List (W1NetlinkMsg × Bool))) :
    Prop :=
  List.Forall₂ (fun c g => ∀ r ∈ g, ∃ w, ReplyFor cfg c r w) cmds gs

/-- The execution has no error and nothing is outstanding. -/
def W1msgExecCbDta.Complete (s : W1msgExecCbDta) : Prop := s.status = 0 ∧ s.outstanding = 0

/-- With more outstanding than there are commands left that require a reply, the execution
never completes. -/
theorem not_complete_of_behind {m : W1Msg} {gs : List (List (W1NetlinkMsg × Bool))} {i : ℕ}
    (hgs : RepliesFor cfg (m.cmdList.drop i) gs) {ms : W1msgMoreStat} (hms : ms ≠ .noMore)
    {s : W1msgExecCbDta} (hm : s.w1msg = m) (hs : s.status = 0)
    (hmsgs : s.cmdMsgs + gs.flatten.length < 2 ^ 32) (hbehind : m.respFrom i < s.outstanding) :
    ¬ (deliver (w1msgExecCb cfg) gs.flatten (ms, s)).2.Complete := by
  induction gs generalizing i ms s with
  | nil =>
    -- no reply is left, and something is outstanding
    rintro ⟨-, hzero⟩
    change s.outstanding = 0 at hzero
    omega
  | cons g gs ih =>
    have hi : i < m.nCmds := by
      by_contra hge
      rw [List.drop_eq_nil_of_le (by simpa using hge)] at hgs
      cases hgs
    rw [m.drop_cmdList hi] at hgs
    cases hgs with
    | cons hg hgs =>
      have hfrom := m.respFrom_of_lt hi
      rw [List.flatten_cons, List.length_append] at hmsgs
      rw [List.flatten_cons, deliver_append]
      have hk' : (m.cmds i).type.isRespRequired = true → s.repliedType ≠ some (m.cmds i).type →
          m.respFrom (i + 1) + 1 < s.outstanding := by
        intro hresp _
        rw [if_pos hresp] at hfrom
        omega
      rcases behind_group hg hms hm hs (by omega) (by omega : m.respFrom (i + 1) < _) hk' with
        ⟨hno, herr⟩ | ⟨hgo, hm', hs', hle, hk⟩
      · rw [deliver_noMore _ hno]
        exact fun hc => herr hc.1
      · exact ih hgs hgo hm' hs' (by omega) hk

/-! ### Replies in step -/

/-- The data that a group of replies brings for its command. -/
def dataWrites (c : W1Cmd) (g : List (W1NetlinkMsg × Bool)) : List (ℕ × List UInt8) :=
  ((g.flatMap fun r => W1NetlinkCmd.parser.chain r.1.data).filter fun w => 0 < w.len).map
    fun w => (c.pData, w.data)

theorem ReplyFor.dataWrites_cons {c : W1Cmd} {r : W1NetlinkMsg × Bool} {w : W1NetlinkCmd}
    (h : ReplyFor cfg c r w) (g : List (W1NetlinkMsg × Bool)) :
    dataWrites c (r :: g) = (if 0 < w.len then [(c.pData, w.data)] else []) ++ dataWrites c g := by
  rw [dataWrites, List.flatMap_cons, h.chain, List.filter_append, List.map_append, dataWrites]
  congr 1
  by_cases hpos : 0 < w.len
  · simp [hpos]
  · simp [hpos]

theorem dataWrites_append (c : W1Cmd) (g g' : List (W1NetlinkMsg × Bool)) :
    dataWrites c (g ++ g') = dataWrites c g ++ dataWrites c g' := by
  rw [dataWrites, List.flatMap_append, List.filter_append, List.map_append, dataWrites, dataWrites]

/-- The callback has taken the replies to the commands before index `i`, each for its own
command, and none for a later one. -/
structure OnTrack (m : W1Msg) (i : ℕ) (s : W1msgExecCbDta) : Prop where
  w1msg : s.w1msg = m
  status : s.status = 0
  le : s.nPrcCmds ≤ i
  passed : ∀ j, s.nPrcCmds ≤ j → j < i →
    (m.cmds j).type.isRespRequired = false ∨ j = s.nPrcCmds ∧ 0 < s.cmdMsgs
  outstanding : s.outstanding = m.respFrom i

/-- The callback is on track and has taken a reply to the command at index `i`, perhaps for an
earlier one of the same type that requires none. -/
structure InGroup (m : W1Msg) (i : ℕ) (s : W1msgExecCbDta) : Prop where
  onTrack : OnTrack m (i + 1) s
  le : s.nPrcCmds ≤ i
  type : s.cur.type = (m.cmds i).type
  index : (m.cmds i).type.isRespRequired = true → s.nPrcCmds = i
  cmdMsgs : 0 < s.cmdMsgs

theorem InGroup.repliedType {m : W1Msg} {i : ℕ} {s : W1msgExecCbDta} (h : InGroup m i s) :
    s.repliedType =
      if (m.cmds i).type.isRespRequired then some (m.cmds i).type else none := by
  rw [s.repliedType_of_pos h.cmdMsgs, h.type]

/-- From the state `s` the callback has taken the replies `g` to the command at index `i`. -/
structure TakesGroup (m : W1Msg) (i : ℕ) (g : List (W1NetlinkMsg × Bool)) (s : W1msgExecCbDta)
    (p : W1msgMoreStat × W1msgExecCbDta) : Prop where
  more : p.1 ≠ .noMore
  inGroup : InGroup m i p.2
  cmdMsgs_le : p.2.cmdMsgs ≤ s.cmdMsgs + g.length
  writes : p.2.writes = s.writes ++ dataWrites (m.cmds i) g

theorem TakesGroup.append {m : W1Msg} {i : ℕ} {g g' : List (W1NetlinkMsg × Bool)}
    {s : W1msgExecCbDta} {p p' : W1msgMoreStat × W1msgExecCbDta} (h : TakesGroup m i g s p)
    (h' : TakesGroup m i g' p.2 p') : TakesGroup m i (g ++ g') s p' where
  more := h'.more
  inGroup := h'.inGroup
  cmdMsgs_le := by
    have hle := h.cmdMsgs_le
    have hle' := h'.cmdMsgs_le
    rw [List.length_append]
    omega
  writes := by rw [h'.writes, h.writes, dataWrites_append, List.append_assoc]

/-- The buffer and the length of the commands that a well-formed message reads data for. -/
theorem W1Msg.WellFormed.pData_ne_zero {m : W1Msg} (hm : m.WellFormed cfg) {i : ℕ}
    (hi : i < m.nCmds) (hlen : 0 < (m.cmds i).len) : (m.cmds i).pData ≠ 0 := by
  intro hzero
  have := (hm.cmd _ (m.mem_cmdList hi)).pData_eq_zero_iff.mp hzero
  omega

/-- A reply with data has the length of its command's buffer. -/
theorem ReplyFor.fits_buffer {m : W1Msg} (hwf : m.WellFormed cfg) {i : ℕ} (hi : i < m.nCmds)
    {r : W1NetlinkMsg × Bool} {w : W1NetlinkCmd} (h : ReplyFor cfg (m.cmds i) r w)
    (hpos : 0 < w.len) : ¬ (w.len ≠ (m.cmds i).len ∨ (m.cmds i).pData = 0) := by
  obtain ⟨-, hlen⟩ := h.len hpos
  rintro (hbad | hbad)
  · exact hbad hlen
  · exact hwf.pData_ne_zero hi (hlen ▸ hpos) hbad

/-- A reply to the command at index `i` that is taken at a command of its type: the callback is
at that command if it requires a reply. -/
private theorem Taken.inGroup {m : W1Msg} {i : ℕ} (hi : i < m.nCmds) {r : W1NetlinkMsg × Bool}
    {w : W1NetlinkCmd} (h : ReplyFor cfg (m.cmds i) r w) {s s' : W1msgExecCbDta}
    (ht : Taken cfg s w s') (hm : s.w1msg = m) (hs : s.status = 0) (hle : s.nPrcCmds ≤ i)
    (hmsgs : s.cmdMsgs + 1 < 2 ^ 32)
    (hindex : (m.cmds i).type.isRespRequired = true → s.nPrcCmds = i)
    (hpassed : ∀ j, s.nPrcCmds < j → j < i → (m.cmds j).type.isRespRequired = false)
    (hout : (m.cmds i).type.isRespRequired = false → s.outstanding = m.respFrom (i + 1)) :
    InGroup m i s' ∧ s'.writes = s.writes ++ dataWrites (m.cmds i) [r] := by
  have htype : s.cur.type = (m.cmds i).type :=
    convertCmdType_injective cfg (ht.code.symm.trans h.code)
  have hcmdMsgs := ht.cmdMsgs_eq hmsgs
  have hmsg : s'.w1msg = m := ht.w1msg.trans hm
  have hlt : s'.nPrcCmds < s'.w1msg.nCmds := by
    rw [ht.w1msg, ht.nPrcCmds]
    exact ht.lt
  have hprc := ht.nPrcCmds
  refine ⟨⟨⟨hmsg, ht.status.trans hs, by omega, ?_, ?_⟩, by omega, ht.cur ▸ htype,
    fun hresp => hprc.trans (hindex hresp), by omega⟩, ?_⟩
  · intro j hj hj'
    by_cases hat : j = s'.nPrcCmds
    · exact .inr ⟨hat, by omega⟩
    · left
      by_cases hji : j = i
      · subst hji
        by_contra hresp
        have := hindex (by simpa using hresp)
        omega
      · exact hpassed j (by omega) (by omega)
  · rw [s'.outstanding_of_pos hlt (by omega), hmsg]
    rcases hresp : (m.cmds i).type.isRespRequired with _ | _
    · -- nothing changes at a command that requires no reply
      rw [← hout hresp, s.outstanding_eq ht.lt, htype, hresp, hprc, hm]
      simp
    · rw [hprc, hindex hresp]
  · rw [ht.writes, h.dataWrites_cons]
    by_cases hpos : 0 < w.len
    · have hresp := (h.len hpos).1
      have hcur : s.cur = m.cmds i := by rw [W1msgExecCbDta.cur, hm, hindex hresp]
      rw [if_pos ⟨htype ▸ hresp, hpos⟩, if_pos hpos, hcur]
      rfl
    · rw [if_neg fun hboth => hpos hboth.2, if_neg hpos]
      rfl

/-- The first reply to the next command, when the callback does not stay at an earlier command
of the same type. -/
theorem OnTrack.reply {m : W1Msg} (hwf : m.WellFormed cfg) {i : ℕ} (hi : i < m.nCmds)
    {s : W1msgExecCbDta} (hs : OnTrack m i s) {r : W1NetlinkMsg × Bool} {w : W1NetlinkCmd}
    (h : ReplyFor cfg (m.cmds i) r w) (hprev : s.repliedType ≠ some (m.cmds i).type)
    (hmsgs : s.cmdMsgs + 1 < 2 ^ 32) {ms : W1msgMoreStat} {s' : W1msgExecCbDta}
    (hp : w1msgExecCb cfg s r.1 r.2 = (ms, s')) :
    TakesGroup m i [r] s (ms, s') := by
  -- the callback does not move past the command
  have hreach : ∀ {s₁}, Reached cfg s w.cmd s₁ → s₁.nPrcCmds ≤ i := by
    intro s₁ hr
    by_contra hgt
    refine (hr.skipped i hs.le (by omega)).1 ?_
    rw [hs.w1msg]
    exact h.code
  -- it does not stop at an earlier one that requires a reply
  have hearly : ∀ {s₁}, Reached cfg s w.cmd s₁ → w.cmd = convertCmdType cfg s₁.cur.type →
      (m.cmds i).type.isRespRequired = true → s₁.nPrcCmds = i := by
    intro s₁ hr hcode hresp
    have hle := hreach hr
    have hcur : s₁.cur = m.cmds s₁.nPrcCmds := by rw [W1msgExecCbDta.cur, hr.w1msg, hs.w1msg]
    have htype : s₁.cur.type = (m.cmds i).type :=
      convertCmdType_injective cfg (hcode.symm.trans h.code)
    by_contra hne
    rcases hs.passed s₁.nPrcCmds hr.le (by omega) with hno | ⟨heq, hpos⟩
    · rw [← hcur, htype, hresp] at hno
      cases hno
    · have hcur' : s.cur = s₁.cur := by rw [hcur, heq, W1msgExecCbDta.cur, hs.w1msg]
      refine hprev ?_
      rw [s.repliedType_of_pos hpos, hcur', htype, if_pos hresp]
  cases h.outcome hp with
  | exhausted hr hle =>
    -- it would have moved past the command
    have hle' := hreach hr
    rw [hr.w1msg, hs.w1msg] at hle
    omega
  | @failed s₁ _ hr hlt hresp hbad hstatus =>
    exfalso
    have hcur : s₁.cur = m.cmds s₁.nPrcCmds := by rw [W1msgExecCbDta.cur, hr.w1msg, hs.w1msg]
    rcases hbad with ⟨hcode, hzero⟩ | ⟨hcode, hpos, hbad⟩
    · -- an unanswered command of another code, yet all before `i` are answered
      have hne : s₁.nPrcCmds ≠ i := by
        intro heq
        rw [hcur, heq] at hcode
        exact hcode h.code
      have hle := hreach hr
      rcases hs.passed s₁.nPrcCmds hr.le (by omega) with hno | ⟨heq, hpos⟩
      · rw [← hcur, hresp] at hno
        cases hno
      · rcases hr.cmdMsgs with ⟨-, hsame⟩ | ⟨hlt', -⟩ <;> omega
    · rw [hcur, hearly hr hcode (h.len hpos).1] at hbad
      exact h.fits_buffer hwf hi hpos hbad
  | @taken _ s₁ _ hr ht hmore hreq =>
    have hbound : s₁.cmdMsgs + 1 < 2 ^ 32 := by
      rcases hr.cmdMsgs with ⟨-, heq⟩ | ⟨-, hzero⟩ <;> omega
    have hcmdMsgs := ht.cmdMsgs_eq hbound
    obtain ⟨hin, hwrites⟩ := ht.inGroup hi h (hr.w1msg.trans hs.w1msg) (hr.status.trans hs.status)
      (hreach hr) hbound (hearly hr ht.code)
      (fun j hj hj' => (hs.passed j (by have := hr.le; omega) hj').resolve_right
        (fun heq => by have := hr.le; omega))
      (fun hno => by
        rw [hr.outstanding, hs.outstanding, m.respFrom_of_lt hi, hno]
        simp)
    refine ⟨hmore, hin, ?_, hr.writes ▸ hwrites⟩
    change s'.cmdMsgs ≤ s.cmdMsgs + 1
    rcases hr.cmdMsgs with ⟨-, heq⟩ | ⟨-, hzero⟩ <;> omega

/-- A further reply to the same command. The callback stays where it is, as the code is that of
its command, and only the number of replies goes up. -/
theorem InGroup.reply {m : W1Msg} (hwf : m.WellFormed cfg) {i : ℕ} (hi : i < m.nCmds)
    {s : W1msgExecCbDta} (hs : InGroup m i s) {r : W1NetlinkMsg × Bool} {w : W1NetlinkCmd}
    (h : ReplyFor cfg (m.cmds i) r w) (hmsgs : s.cmdMsgs + 1 < 2 ^ 32) {ms : W1msgMoreStat}
    {s' : W1msgExecCbDta} (hp : w1msgExecCb cfg s r.1 r.2 = (ms, s')) :
    TakesGroup m i [r] s (ms, s') := by
  have hcode : w.cmd = convertCmdType cfg s.cur.type := by rw [h.code, hs.type]
  have hlt : s.nPrcCmds < s.w1msg.nCmds := by
    rw [hs.onTrack.w1msg]
    exact hs.le.trans_lt hi
  cases h.outcome hp with
  | exhausted hr hle =>
    -- the code is the current command's, so the callback does not move
    have := (hr.eq_of_code hcode).1
    rw [hr.w1msg] at hle
    omega
  | @failed s₁ _ hr _ hresp hbad hstatus =>
    exfalso
    obtain ⟨hprc, hsame⟩ := hr.eq_of_code hcode
    have hcur : s₁.cur = s.cur := by rw [W1msgExecCbDta.cur, hr.w1msg, hprc, W1msgExecCbDta.cur]
    rw [hcur] at hbad hresp
    rcases hbad with ⟨hne, -⟩ | ⟨-, hpos, hbad⟩
    · exact hne hcode
    · have hcur' : s.cur = m.cmds i := by
        rw [W1msgExecCbDta.cur, hs.onTrack.w1msg, hs.index (h.len hpos).1]
      rw [hcur'] at hbad
      exact h.fits_buffer hwf hi hpos hbad
  | @taken _ s₁ _ hr ht hmore hreq =>
    obtain ⟨hprc, hsame⟩ := hr.eq_of_code hcode
    have hcmdMsgs := ht.cmdMsgs_eq (by omega)
    obtain ⟨hin, hwrites⟩ := ht.inGroup hi h (hr.w1msg.trans hs.onTrack.w1msg)
      (hr.status.trans hs.onTrack.status) (hprc ▸ hs.le) (by omega)
      (fun hresp => hprc.trans (hs.index hresp))
      (fun j hj hj' => (hs.onTrack.passed j (by omega) (by omega)).resolve_right
        (fun heq => by omega))
      (fun _ => hr.outstanding.trans hs.onTrack.outstanding)
    exact ⟨hmore, hin, show s'.cmdMsgs ≤ s.cmdMsgs + 1 by omega, hr.writes ▸ hwrites⟩

/-- The rest of a group of replies. The induction is on the replies; between any two of them the
callback is in the group. -/
theorem InGroup.replies {m : W1Msg} (hwf : m.WellFormed cfg) {i : ℕ} (hi : i < m.nCmds)
    {g : List (W1NetlinkMsg × Bool)} (hg : ∀ r ∈ g, ∃ w, ReplyFor cfg (m.cmds i) r w)
    {s : W1msgExecCbDta} (hs : InGroup m i s) (hmsgs : s.cmdMsgs + g.length < 2 ^ 32)
    {ms : W1msgMoreStat} (hms : ms ≠ .noMore) :
    TakesGroup m i g s (deliver (w1msgExecCb cfg) g (ms, s)) := by
  induction g generalizing ms s with
  | nil => exact ⟨hms, hs, le_rfl, (List.append_nil _).symm⟩
  | cons r g ih =>
    obtain ⟨w, hr⟩ := hg r List.mem_cons_self
    rcases hp : w1msgExecCb cfg s r.1 r.2 with ⟨ms₁, s₁⟩
    rw [List.length_cons] at hmsgs
    have hfirst := hs.reply hwf hi hr (by omega) hp
    have hle := hfirst.cmdMsgs_le
    rw [List.length_singleton] at hle
    rw [deliver_step hms hp]
    exact hfirst.append (ih (fun x hx => hg x (List.mem_cons_of_mem _ hx)) hfirst.inGroup (by omega)
      hfirst.more)

/-- A group of replies to the next command: the first of them brings the callback to the command,
and the others find it there. -/
theorem OnTrack.replies {m : W1Msg} (hwf : m.WellFormed cfg) {i : ℕ} (hi : i < m.nCmds)
    {g : List (W1NetlinkMsg × Bool)} (hg : ∀ r ∈ g, ∃ w, ReplyFor cfg (m.cmds i) r w)
    (hne : g ≠ []) {s : W1msgExecCbDta} (hs : OnTrack m i s)
    (hprev : s.repliedType ≠ some (m.cmds i).type) (hmsgs : s.cmdMsgs + g.length < 2 ^ 32)
    {ms : W1msgMoreStat} (hms : ms ≠ .noMore) :
    TakesGroup m i g s (deliver (w1msgExecCb cfg) g (ms, s)) := by
  obtain ⟨r, g, rfl⟩ := List.exists_cons_of_ne_nil hne
  obtain ⟨w, hr⟩ := hg r List.mem_cons_self
  rcases hp : w1msgExecCb cfg s r.1 r.2 with ⟨ms₁, s₁⟩
  rw [List.length_cons] at hmsgs
  have hfirst := hs.reply hwf hi hr hprev (by omega) hp
  have hle := hfirst.cmdMsgs_le
  rw [List.length_singleton] at hle
  rw [deliver_step hms hp]
  exact hfirst.append (hfirst.inGroup.replies hwf hi
    (fun x hx => hg x (List.mem_cons_of_mem _ hx)) (by omega) hfirst.more)

/-- A command that requires no reply and gets none. The callback has not moved; it is on track for
what comes behind the command as well. -/
theorem OnTrack.skip {m : W1Msg} {i : ℕ} (hi : i < m.nCmds) {s : W1msgExecCbDta}
    (hs : OnTrack m i s) (hno : (m.cmds i).type.isRespRequired = false) :
    OnTrack m (i + 1) s where
  w1msg := hs.w1msg
  status := hs.status
  le := hs.le.trans (Nat.le_succ i)
  passed := by
    intro j hj hj'
    rcases Nat.lt_succ_iff_lt_or_eq.mp hj' with hlt | rfl
    · exact hs.passed j hj hlt
    · exact .inl hno
  outstanding := by
    rw [hs.outstanding, m.respFrom_of_lt hi, hno]
    simp

/-! ### The lists that are got right -/

/-- The replies to some commands are told apart by their codes: every command that requires a
reply has one, and between two such commands of one type some other command has a reply.
`prev` is the type of the last command that required a reply, unless another command has had a
reply since. Each entry is a command's type and whether it has a reply. -/
def Attributable : Option W1CmdType → List (W1CmdType × Bool) → Prop
  | _, [] => True
  | prev, (type, replied) :: l =>
    if type.isRespRequired then replied = true ∧ prev ≠ some type ∧ Attributable (some type) l
    else Attributable (if replied then none else prev) l

/-- The types of commands, each with whether it has a reply. -/
def replyPattern (cmds : List W1Cmd) {ρ : Type*} (gs : List (List ρ)) :
    List (W1CmdType × Bool) :=
  List.zipWith (fun c g => (c.type, !g.isEmpty)) cmds gs

/-- When the command at index `i` requires a reply and has none, or the callback stays at an
earlier command of its type, the execution never completes. -/
theorem OnTrack.not_complete {m : W1Msg} {i : ℕ} (hi : i < m.nCmds)
    (hresp : (m.cmds i).type.isRespRequired = true) {g : List (W1NetlinkMsg × Bool)}
    (hg : ∀ r ∈ g, ∃ w, ReplyFor cfg (m.cmds i) r w) {gs : List (List (W1NetlinkMsg × Bool))}
    (hgs : RepliesFor cfg (m.cmdList.drop (i + 1)) gs) {s : W1msgExecCbDta} (hs : OnTrack m i s)
    (hbad : g = [] ∨ s.repliedType = some (m.cmds i).type)
    (hmsgs : s.cmdMsgs + (g.length + gs.flatten.length) < 2 ^ 32) {ms : W1msgMoreStat}
    (hms : ms ≠ .noMore) :
    ¬ (deliver (w1msgExecCb cfg) gs.flatten (deliver (w1msgExecCb cfg) g (ms, s))).2.Complete := by
  have hbehind : m.respFrom (i + 1) < s.outstanding := by
    rw [hs.outstanding, m.respFrom_of_lt hi, if_pos hresp]
    exact Nat.lt_succ_self _
  rcases hbad with rfl | hprev
  · exact not_complete_of_behind hgs hms hs.w1msg hs.status (by omega) hbehind
  · rcases behind_group hg hms hs.w1msg hs.status (by omega) hbehind
      (fun _ hne => absurd hprev hne) with ⟨hno, herr⟩ | ⟨hgo, hm', hs', hle, hk⟩
    · rw [deliver_noMore _ hno]
      exact fun hc => herr hc.1
    · exact not_complete_of_behind hgs hgo hm' hs' (by omega) hk

/-- From a state on track, the execution completes exactly when the replies to come can be told
apart, and it then writes what they bring, each to the buffer of its own command. -/
theorem OnTrack.complete_iff {m : W1Msg} (hwf : m.WellFormed cfg)
    {gs : List (List (W1NetlinkMsg × Bool))} {i : ℕ}
    (hgs : RepliesFor cfg (m.cmdList.drop i) gs) {s : W1msgExecCbDta} (hs : OnTrack m i s)
    (hmsgs : s.cmdMsgs + gs.flatten.length < 2 ^ 32) {ms : W1msgMoreStat} (hms : ms ≠ .noMore) :
    let p := deliver (w1msgExecCb cfg) gs.flatten (ms, s)
    (p.2.Complete ↔ Attributable s.repliedType (replyPattern (m.cmdList.drop i) gs)) ∧
      (p.2.Complete → p.2.writes = s.writes ++
        (List.zipWith dataWrites (m.cmdList.drop i) gs).flatten) := by
  induction gs generalizing i ms s with
  | nil =>
    cases hdrop : m.cmdList.drop i with
    | cons c cs =>
      rw [hdrop] at hgs
      cases hgs
    | nil =>
      have hzero : m.respFrom i = 0 := by rw [W1Msg.respFrom, hdrop, List.countP_nil]
      exact ⟨⟨fun _ => trivial, fun _ => ⟨hs.status, hs.outstanding.trans hzero⟩⟩,
        fun _ => (List.append_nil _).symm⟩
  | cons g gs ih =>
    have hi : i < m.nCmds := by
      by_contra hge
      rw [List.drop_eq_nil_of_le (by simpa using hge)] at hgs
      cases hgs
    rw [m.drop_cmdList hi] at hgs ⊢
    obtain ⟨hg, hgs'⟩ := List.forall₂_cons.mp hgs
    rw [List.flatten_cons, List.length_append] at hmsgs
    rw [List.flatten_cons, deliver_append, replyPattern, List.zipWith_cons_cons, Attributable,
      List.zipWith_cons_cons, List.flatten_cons]
    -- when the replies to this command are taken for it, the rest decides
    have htaken : g ≠ [] → s.repliedType ≠ some (m.cmds i).type →
        let p := deliver (w1msgExecCb cfg) gs.flatten (deliver (w1msgExecCb cfg) g (ms, s))
        (p.2.Complete ↔ Attributable
          (if (m.cmds i).type.isRespRequired then some (m.cmds i).type else none)
          (replyPattern (m.cmdList.drop (i + 1)) gs)) ∧
        (p.2.Complete → p.2.writes = s.writes ++ (dataWrites (m.cmds i) g ++
          (List.zipWith dataWrites (m.cmdList.drop (i + 1)) gs).flatten)) := by
      intro hne hprev
      have hgroup := hs.replies hwf hi hg hne hprev (by omega) hms
      have hle := hgroup.cmdMsgs_le
      obtain ⟨hiff, hwrites⟩ := ih hgs' hgroup.inGroup.onTrack (by omega) hgroup.more
      rw [hgroup.inGroup.repliedType] at hiff
      refine ⟨hiff, fun hc => ?_⟩
      rw [hwrites hc, hgroup.writes, List.append_assoc]
    by_cases hresp : (m.cmds i).type.isRespRequired = true
    · rw [if_pos hresp]
      rw [if_pos hresp] at htaken
      by_cases hbad : g = [] ∨ s.repliedType = some (m.cmds i).type
      · have hnot := hs.not_complete hi hresp hg hgs' hbad hmsgs hms
        refine ⟨⟨fun hc => absurd hc hnot, ?_⟩, fun hc => absurd hc hnot⟩
        rintro ⟨hne, hprev, -⟩
        rcases hbad with rfl | hbad
        · cases hne
        · exact absurd hbad hprev
      · push Not at hbad
        obtain ⟨hiff, hwrites⟩ := htaken hbad.1 hbad.2
        have hne : (!g.isEmpty) = true := by simpa using hbad.1
        exact ⟨hiff.trans ⟨fun h => ⟨hne, hbad.2, h⟩, fun h => h.2.2⟩, hwrites⟩
    · rw [if_neg hresp]
      rw [if_neg hresp] at htaken
      have hno : (m.cmds i).type.isRespRequired = false := by simpa using hresp
      by_cases hempty : g = []
      · subst hempty
        exact ih hgs' (hs.skip hi hno) (by omega) hms
      · have hne : (!g.isEmpty) = true := by simpa using hempty
        rw [if_pos hne]
        exact htaken hempty (s.repliedType_ne hno)

end Reply

end Librasp
