import Librasp.W1.Datagram
import Librasp.W1.Decode
import Librasp.W1.ExecFrame

/-!
# What success of an execution means

`w1_msg_exec` returns success on the strength of the last answer of its callback and of a status
byte. A status that is not zero always shows (`w1MsgExec_success`). That every read and touch
buffer was filled does not follow from success alone: the callback counts a reply without data
like any other, and it answers "no more required" to an empty w1 message while the command it is
at may still be without a reply. In runs with neither (`DataFirst`, `NoEmptyEnd`) success means
that every buffer was filled.

The proof is about the record of what the callback did: the commands it took (`HasStep`) and the
writes it made.

* `Progress` is kept between any two rounds that end well: every command before the current one
  that requires a reply has a step, and every step with data is a buffer filled.
* `RoundInv` and `RunInv` carry it through the loops of a call and through the calls of a run.

**Main results.** `successMeans_of_steps` and `w1MsgExec_success`. A status that is taken for the
reply to a read is a run of the other kind (`not_successMeans_readFour`).
-/

namespace Librasp

/-- The buffer of a command was filled: a w1 command of its code and of exactly its length was
received and copied there. -/
def Filled (cfg : Config) (s : W1msgExecCbDta) (c : W1Cmd) : Prop :=
  ∃ r ∈ s.handed, ∃ w ∈ W1NetlinkCmd.parser.chain r.1.data,
    w.cmd = convertCmdType cfg c.type ∧ w.len = c.len ∧ (c.pData, w.data) ∈ s.writes

/-- A w1 command was taken as a reply to the command at an index. -/
def HasStep (s : W1msgExecCbDta) (i : ℕ) : Prop := ∃ st ∈ s.steps, st.idx = i

/-- Whenever a w1 command without data is taken for a command that needs data, another one was
taken for it before. -/
def DataFirst (m : W1Msg) (steps : List ExecStep) : Prop :=
  ∀ pre st post, steps = pre ++ st :: post → (m.cmds st.idx).NeedsData → st.w1cmd.len = 0 →
    ∃ st' ∈ pre, st'.idx = st.idx

/-- No w1 message without w1 commands is handed over while the current command, the last one
that requires a reply, needs data and is without a reply. -/
def NoEmptyEnd (cfg : Config) (m : W1Msg) (handed : List (W1NetlinkMsg × Bool)) : Prop :=
  ∀ pre r post, handed = pre ++ r :: post → W1NetlinkCmd.parser.chain r.1.data = [] →
    (replay cfg m pre).cur.NeedsData →
    (∀ j, (replay cfg m pre).nPrcCmds < j → j < m.nCmds →
      (m.cmds j).type.isRespRequired = false) →
    HasStep (replay cfg m pre) (replay cfg m pre).nPrcCmds

/-! ### The invariant -/

theorem DataFirst.of_append {m : W1Msg} {steps steps' : List ExecStep}
    (h : DataFirst m (steps ++ steps')) : DataFirst m steps := by
  intro pre st post heq hneeds hlen
  exact h pre st (post ++ steps') (by rw [heq, List.append_assoc, List.cons_append]) hneeds hlen

/-- What the callback keeps between any two rounds that end well. -/
structure Progress (cfg : Config) (m : W1Msg) (s : W1msgExecCbDta) : Prop where
  w1msg : s.w1msg = m
  /-- The commands passed over have their replies. -/
  answered : ∀ i < s.nPrcCmds, (m.cmds i).type.isRespRequired = true → HasStep s i
  counted : 0 < s.cmdMsgs → HasStep s s.nPrcCmds
  filled : DataFirst m s.steps → ∀ i, HasStep s i → (m.cmds i).NeedsData →
    Filled cfg s (m.cmds i)

section Progress

variable {cfg : Config} {m : W1Msg} {s : W1msgExecCbDta}

theorem hasStep_take (s : W1msgExecCbDta) (w : W1NetlinkCmd) :
    HasStep (s.take w) s.nPrcCmds :=
  ⟨⟨s.nPrcCmds, w⟩, List.mem_append_right _ (List.mem_singleton.mpr rfl), rfl⟩

theorem HasStep.take {i : ℕ} (h : HasStep s i) (w : W1NetlinkCmd) : HasStep (s.take w) i := by
  obtain ⟨st, hst, hi⟩ := h
  exact ⟨st, List.mem_append_left _ hst, hi⟩

/-- A command other than the new one was taken before. -/
theorem hasStep_of_take {i : ℕ} {w : W1NetlinkCmd} (h : HasStep (s.take w) i)
    (hne : i ≠ s.nPrcCmds) : HasStep s i := by
  obtain ⟨st, hst, hi⟩ := h
  rcases List.mem_append.mp hst with hst | hst
  · exact ⟨st, hst, hi⟩
  · rw [List.mem_singleton.mp hst] at hi
    exact absurd hi.symm hne

theorem Progress.next (h : Progress cfg m s)
    (hresp : s.cur.type.isRespRequired = false ∨ 0 < s.cmdMsgs) : Progress cfg m s.next := by
  refine ⟨h.w1msg, fun i hi hi' => ?_, fun hpos => absurd hpos (Nat.lt_irrefl 0), h.filled⟩
  rcases Nat.lt_succ_iff_lt_or_eq.mp hi with hlt | rfl
  · exact h.answered i hlt hi'
  · rcases hresp with hno | hpos
    · rw [W1msgExecCbDta.cur, h.w1msg, hi'] at hno
      cases hno
    · exact h.counted hpos

/-- Taking a w1 command without copying it: it is for a command that needs no data, or it
brings none. -/
theorem Progress.take (h : Progress cfg m s) {w : W1NetlinkCmd}
    (hresp : s.cur.type.isRespRequired = false ∨ w.len = 0) : Progress cfg m (s.take w) := by
  refine ⟨h.w1msg, fun i hi hi' => (h.answered i hi hi').take w, fun _ => hasStep_take s w,
    fun hdf i hi hneeds => ?_⟩
  have hdf' : DataFirst m s.steps := hdf.of_append
  by_cases hcur : i = s.nPrcCmds
  · subst hcur
    have hlen : w.len = 0 := by
      rcases hresp with hno | hlen
      · rw [W1msgExecCbDta.cur, h.w1msg, hneeds.1] at hno
        cases hno
      · exact hlen
    -- the reply brings no data, so there was one before it
    obtain ⟨st, hst, hidx⟩ := hdf s.steps ⟨s.nPrcCmds, w⟩ [] rfl hneeds hlen
    exact h.filled hdf' _ ⟨st, hst, hidx⟩ hneeds
  · exact h.filled hdf' i (hasStep_of_take hi hcur) hneeds

/-- Taking a w1 command and copying its data: the buffer of the current command is filled, and the
step is one with data. -/
theorem Progress.copy (h : Progress cfg m s) {w : W1NetlinkCmd}
    (hcode : w.cmd = convertCmdType cfg s.cur.type) (hlen : w.len = s.cur.len)
    (hmem : ∃ r ∈ s.handed, w ∈ W1NetlinkCmd.parser.chain r.1.data) :
    Progress cfg m ((s.take w).copy w) := by
  have hcur : s.cur = m.cmds s.nPrcCmds := by rw [W1msgExecCbDta.cur, h.w1msg]
  refine ⟨h.w1msg, fun i hi hi' => (h.answered i hi hi').take w, fun _ => hasStep_take s w,
    fun hdf i hi hneeds => ?_⟩
  have hdf' : DataFirst m s.steps := hdf.of_append
  by_cases hi' : i = s.nPrcCmds
  · subst hi'
    obtain ⟨r, hr, hw⟩ := hmem
    rw [hcur] at hcode hlen
    refine ⟨r, hr, w, hw, hcode, hlen, List.mem_append_right _ (List.mem_singleton.mpr ?_)⟩
    rw [← hcur]
    rfl
  · obtain ⟨r, hr, v, hv, hvcode, hvlen, hvw⟩ := h.filled hdf' i (hasStep_of_take hi hi') hneeds
    exact ⟨r, hr, v, hv, hvcode, hvlen, List.mem_append_left _ hvw⟩

end Progress

/-- The invariant of the callback's loops: `s₀` is the state before the call. -/
structure RoundInv (cfg : Config) (m : W1Msg) (s₀ : W1msgExecCbDta) (w1msg : W1NetlinkMsg)
    (isStatus : Bool) (w1cmds : List W1NetlinkCmd) (s : W1msgExecCbDta) : Prop where
  progress : Progress cfg m s
  status : s.status = 0
  handed : s.handed = s₀.handed ++ [(w1msg, isStatus)]
  mem : ∀ w ∈ w1cmds, w ∈ W1NetlinkCmd.parser.chain w1msg.data
  checked : s.nPrcCmds < m.nCmds ∨ ¬ (isStatus = true ∧ w1msg.status ≠ 0)
  /-- A w1 message with w1 commands ends with one taken for the current command. -/
  pending : w1cmds ≠ [] ∨ HasStep s s.nPrcCmds ∨
    W1NetlinkCmd.parser.chain w1msg.data = [] ∧ s.nPrcCmds = s₀.nPrcCmds ∧ s.steps = s₀.steps

/-- What a call of the callback leaves behind, with its answer. -/
structure CallPost (cfg : Config) (m : W1Msg) (s₀ : W1msgExecCbDta) (w1msg : W1NetlinkMsg)
    (isStatus : Bool) (ms : W1msgMoreStat) (s : W1msgExecCbDta) : Prop where
  handed : s.handed = s₀.handed ++ [(w1msg, isStatus)]
  running : ms ≠ .noMore → s.status = 0 ∧ s.nPrcCmds < m.nCmds
  progress : s.status = 0 → Progress cfg m s ∧ ¬ (isStatus = true ∧ w1msg.status ≠ 0)
  exhausted : s.status = 0 → ms = .noMore → m.nCmds ≤ s.nPrcCmds
  opt : ms = .moreOpt →
    (∀ j, s.nPrcCmds < j → j < m.nCmds → (m.cmds j).type.isRespRequired = false) ∧
      (HasStep s s.nPrcCmds ∨ W1NetlinkCmd.parser.chain w1msg.data = [] ∧
        s.nPrcCmds = s₀.nPrcCmds ∧ s.steps = s₀.steps)

/-- Every round of the callback keeps the invariant. -/
theorem roundInv_rule (cfg : Config) (m : W1Msg) (s₀ : W1msgExecCbDta) (w1msg : W1NetlinkMsg)
    (isStatus : Bool) : ExecRule cfg w1msg isStatus (RoundInv cfg m s₀ w1msg isStatus)
      (CallPost cfg m s₀ w1msg isStatus) where
  exhausted {w1cmds s} hs hle := by
    -- the commands ran out inside this call, so the status was checked before the last one
    have hmsg := hs.progress.w1msg
    rw [hmsg] at hle
    have hok := hs.checked.resolve_left (not_lt.mpr hle)
    exact ⟨hs.handed, fun h => absurd rfl h, fun _ => ⟨hs.progress, hok⟩, fun _ _ => hle,
      by rintro ⟨⟩⟩
  status {w1cmds s} hs hlt hst hne :=
    ⟨hs.handed, fun h => absurd rfl h, fun h => absurd h hne, fun h => absurd h hne,
      by rintro ⟨⟩⟩
  index {w1cmds s} hs hlt hst :=
    ⟨⟨hs.progress.w1msg, hs.progress.answered, hs.progress.counted, hs.progress.filled⟩,
      hs.status, hs.handed, hs.mem, .inr hst, hs.pending⟩
  next {w1cmd w1cmds s} hs hlt hst hcode hresp :=
    ⟨hs.progress.next hresp, hs.status, hs.handed, hs.mem, .inr hst, .inl (List.cons_ne_nil _ _)⟩
  unexpected {w1cmd w1cmds s} hs hlt hcode hresp hmsgs := by
    have hne : enomsg ≠ 0 := by decide
    exact ⟨hs.handed, fun h => absurd rfl h, fun h => absurd h hne, fun h => absurd h hne,
      by rintro ⟨⟩⟩
  badLen {w1cmd w1cmds s} hs hlt hcode hresp hlen hbad := by
    have hne : enomsg ≠ 0 := by decide
    exact ⟨hs.handed, fun h => absurd rfl h, fun h => absurd h hne, fun h => absurd h hne,
      by rintro ⟨⟩⟩
  copy {w1cmd w1cmds s} hs hlt hcode hresp hpos hlen hdata := by
    have hmem : ∃ r ∈ s.handed, w1cmd ∈ W1NetlinkCmd.parser.chain r.1.data :=
      ⟨(w1msg, isStatus), hs.handed ▸ List.mem_append_right _ (List.mem_singleton.mpr rfl),
        hs.mem w1cmd List.mem_cons_self⟩
    exact ⟨hs.progress.copy hcode hlen hmem, hs.status, hs.handed,
      fun w hw => hs.mem w (List.mem_cons_of_mem _ hw), hs.checked,
      .inr (.inl (hasStep_take s w1cmd))⟩
  take {w1cmd w1cmds s} hs hlt hcode hresp :=
    ⟨hs.progress.take hresp, hs.status, hs.handed,
      fun w hw => hs.mem w (List.mem_cons_of_mem _ hw), hs.checked,
      .inr (.inl (hasStep_take s w1cmd))⟩
  done {s} hs hlt hst := by
    have hmsg := hs.progress.w1msg
    have hend := hs.pending.resolve_left (not_not.mpr rfl)
    -- the final loop only reads `cmds[]`
    have hprog : Progress cfg m { s with indices := s.indices ++
        (respAfter s.w1msg s.w1msg.nCmds (s.nPrcCmds + 1)).2 } :=
      ⟨hs.progress.w1msg, hs.progress.answered, hs.progress.counted, hs.progress.filled⟩
    rw [hmsg] at hlt
    have hafter := respAfter_fst s.w1msg (Nat.sub_le s.w1msg.nCmds (s.nPrcCmds + 1))
    rw [hmsg] at hafter hprog ⊢
    have hnot : (respAfter m m.nCmds (s.nPrcCmds + 1)).1 ≠ .noMore := by
      rcases hafter with ⟨h, -⟩ | ⟨h, -⟩ <;> rw [h] <;> rintro ⟨⟩
    refine ⟨hs.handed, fun _ => ⟨hs.status, hlt⟩, fun _ => ⟨hprog, hst⟩,
      fun _ h => absurd h hnot, fun hopt => ⟨fun j hj hjlt => ?_, hend⟩⟩
    rcases hafter with ⟨hreq, -⟩ | ⟨-, hnone⟩
    · rw [hreq] at hopt
      cases hopt
    · exact hnone j hj hjlt

/-- The invariant of a run of the callback, with its last answer. -/
structure RunInv (cfg : Config) (m : W1Msg) (ms : W1msgMoreStat) (s : W1msgExecCbDta) : Prop where
  replay : s = replay cfg m s.handed
  running : ms ≠ .noMore → s.status = 0 ∧ s.nPrcCmds < m.nCmds
  progress : s.status = 0 → Progress cfg m s ∧ ∀ r ∈ s.handed, r.2 = true → r.1.status = 0
  exhausted : s.status = 0 → ms = .noMore → m.nCmds ≤ s.nPrcCmds
  opt : ms = .moreOpt →
    (∀ j, s.nPrcCmds < j → j < m.nCmds → (m.cmds j).type.isRespRequired = false) ∧
      (NoEmptyEnd cfg m s.handed → s.cur.NeedsData → HasStep s s.nPrcCmds)

theorem runInv_init (cfg : Config) {m : W1Msg} (hpos : 0 < m.nCmds) :
    RunInv cfg m .moreReq (.init m) := by
  refine ⟨rfl, fun _ => ⟨rfl, hpos⟩, fun _ => ⟨⟨rfl, ?_, ?_, ?_⟩, ?_⟩, by rintro - ⟨⟩,
    by rintro ⟨⟩⟩
  · exact fun i hi => absurd hi (Nat.not_lt_zero i)
  · exact fun h => absurd h (Nat.lt_irrefl 0)
  · rintro - i ⟨st, hst, -⟩
    cases hst
  · rintro r ⟨⟩

/-- Every call of the callback keeps the invariant. -/
theorem RunInv.call {cfg : Config} {m : W1Msg} {ms : W1msgMoreStat} {s : W1msgExecCbDta}
    (hs : RunInv cfg m ms s) (hms : ms ≠ .noMore) (w1msg : W1NetlinkMsg) (isStatus : Bool) :
    RunInv cfg m (w1msgExecCb cfg s w1msg isStatus).1 (w1msgExecCb cfg s w1msg isStatus).2 := by
  obtain ⟨hstatus, hlt⟩ := hs.running hms
  obtain ⟨hprog, hhanded⟩ := hs.progress hstatus
  -- the invariant of the rounds starts from the invariant of the run
  have hstart : RoundInv cfg m s w1msg isStatus (W1NetlinkCmd.parser.chain w1msg.data)
      { s with handed := s.handed ++ [(w1msg, isStatus)] } := by
    refine ⟨⟨hprog.w1msg, hprog.answered, hprog.counted, fun hdf i hi hneeds => ?_⟩, hstatus, rfl,
      fun w hw => hw, .inl hlt, ?_⟩
    · obtain ⟨r, hr, hfilled⟩ := hprog.filled hdf i hi hneeds
      exact ⟨r, List.mem_append_left _ hr, hfilled⟩
    · by_cases hnil : W1NetlinkCmd.parser.chain w1msg.data = []
      · exact .inr (.inr ⟨hnil, rfl, rfl⟩)
      · exact .inl hnil
  have hpost := (roundInv_rule cfg m s w1msg isStatus).w1msgExecCb hstart
  have hreplay : (w1msgExecCb cfg s w1msg isStatus).2 =
      Librasp.replay cfg m (s.handed ++ [(w1msg, isStatus)]) := by
    rw [Librasp.replay, List.foldl_append, ← Librasp.replay, ← hs.replay]
    rfl
  refine ⟨by rw [hpost.handed, ← hreplay], hpost.running, fun h => ?_, hpost.exhausted,
    fun hopt => ?_⟩
  · obtain ⟨hprog', hok⟩ := hpost.progress h
    refine ⟨hprog', fun r hr hst => ?_⟩
    rw [hpost.handed] at hr
    rcases List.mem_append.mp hr with hr | hr
    · exact hhanded r hr hst
    · rw [List.mem_singleton.mp hr] at hst ⊢
      by_contra hne
      exact hok ⟨hst, hne⟩
  · obtain ⟨hnone, hend⟩ := hpost.opt hopt
    refine ⟨hnone, fun hempty hneeds => ?_⟩
    rcases hend with hstep | ⟨hchain, hprc, hsteps⟩
    · exact hstep
    · -- the w1 message was empty: the state before the call was already without a reply
      have hrunning := hpost.running (by rw [hopt]; rintro ⟨⟩)
      have hmsg := (hpost.progress hrunning.1).1.w1msg
      have hcur : (w1msgExecCb cfg s w1msg isStatus).2.cur = s.cur := by
        rw [W1msgExecCbDta.cur, W1msgExecCbDta.cur, hmsg, hprc, hprog.w1msg]
      rw [hcur] at hneeds
      rw [hprc] at hnone ⊢
      rw [hs.replay] at hneeds hnone
      have hstep := hempty s.handed (w1msg, isStatus) [] hpost.handed hchain hneeds hnone
      rw [← hs.replay] at hstep
      obtain ⟨st, hst, hidx⟩ := hstep
      exact ⟨st, hsteps ▸ hst, hidx⟩

/-! ### Success -/

/-- What success is to mean: no status that was handed over is an error, and every read or
touch command of non-zero length has its buffer filled. -/
def SuccessMeans (cfg : Config) (m : W1Msg) (s : W1msgExecCbDta) : Prop :=
  (∀ r ∈ s.handed, r.2 = true → r.1.status = 0) ∧
    ∀ c ∈ m.cmdList, c.NeedsData → Filled cfg s c

/-- **Success.** When an execution returns success, no status was an error; and if in its run a
reply without data was taken only after another one, and no empty w1 message while the last
reply was awaited, then every read and touch buffer was filled. -/
theorem successMeans_of_steps {cfg : Config} {fuel : ℕ} {hndl : W1Hndl} {m : W1Msg}
    {mem msgBuf : Mem UInt8} {env : IoEnv} {dta : W1msgExecCbDta}
    (h : (w1MsgExec cfg fuel hndl m mem msgBuf env).ret = some (.success, dta)) :
    (∀ r ∈ dta.handed, r.2 = true → r.1.status = 0) ∧
      (DataFirst m dta.steps → NoEmptyEnd cfg m dta.handed →
        ∀ c ∈ m.cmdList, c.NeedsData → Filled cfg dta c) := by
  have hpos : 0 < m.nCmds := by
    by_contra hzero
    rw [w1MsgExec, if_pos (by omega)] at h
    cases h
  obtain ⟨ms, hinv, hsucc⟩ := w1MsgExec_invariant
    (fun ms s w1msg isStatus hms hs => RunInv.call hs hms w1msg isStatus) (runInv_init cfg hpos) h
  obtain ⟨hms, hstatus⟩ := hsucc rfl
  obtain ⟨hprog, hhanded⟩ := hinv.progress hstatus
  refine ⟨hhanded, fun hdf hempty c hc hneeds => ?_⟩
  obtain ⟨i, hi, rfl⟩ := List.getElem_of_mem hc
  rw [W1Msg.getElem_cmdList] at hneeds ⊢
  rw [W1Msg.length_cmdList] at hi
  have hcur : dta.cur = m.cmds dta.nPrcCmds := by rw [W1msgExecCbDta.cur, hprog.w1msg]
  -- passed by the callback, current when it stopped, or never reached
  rcases Nat.lt_trichotomy i dta.nPrcCmds with hlt | rfl | hgt
  · exact hprog.filled hdf i (hprog.answered i hlt hneeds.1) hneeds
  · cases ms with
    | noMore => exact absurd (hinv.exhausted hstatus rfl) (by omega)
    | moreReq => exact absurd rfl hms
    | moreOpt =>
      refine hprog.filled hdf _ ((hinv.opt rfl).2 hempty ?_) hneeds
      rw [hcur]
      exact hneeds
  · cases ms with
    | noMore => exact absurd (hinv.exhausted hstatus rfl) (by omega)
    | moreReq => exact absurd rfl hms
    | moreOpt =>
      have hnone := (hinv.opt rfl).1 i hgt hi
      rw [hneeds.1] at hnone
      cases hnone

/-- **Success.** When an execution returns success and in its run a reply without data was
taken only after another one, and no empty w1 message while the last reply was awaited, then no
status was an error and every read and touch buffer was filled. -/
theorem w1MsgExec_success {cfg : Config} {fuel : ℕ} {hndl : W1Hndl} {m : W1Msg}
    {mem msgBuf : Mem UInt8} {env : IoEnv} {dta : W1msgExecCbDta}
    (h : (w1MsgExec cfg fuel hndl m mem msgBuf env).ret = some (.success, dta))
    (hdata : DataFirst m dta.steps) (hempty : NoEmptyEnd cfg m dta.handed) :
    SuccessMeans cfg m dta :=
  ⟨(successMeans_of_steps h).1, (successMeans_of_steps h).2 hdata hempty⟩

/-! ### A status instead of data -/

/-- A message that reads 4 bytes. -/
def readFour : W1Msg := (addReadW1Cmd (w1MasterMsgInit 1 1) 100 4).2

/-- A reply to it of one w1 command, with a zero status. -/
def readReply (data : List UInt8) (h : data.length < 256) : W1NetlinkMsg where
  type := w1MasterCmd
  status := 0
  id := 1
  data := (W1NetlinkCmd.mk 0 0 data (h.trans (by decide))).toBytes
  data_lt := lt_of_eq_of_lt (W1NetlinkCmd.length_toBytes _)
    ((Nat.add_lt_add_left h 4).trans (by decide))

theorem length_readReply (data : List UInt8) (h : data.length < 256) :
    (readReply data h).toBytes.length = 16 + data.length := by
  simp [readReply, W1NetlinkMsg.len, W1NetlinkCmd.len, sizeofW1NetlinkMsg, sizeofW1NetlinkCmd]
  omega

/-- The system replies to a first request with one w1 message and is then silent. -/
def replyEnv (ack : UInt32) (w1msg : W1NetlinkMsg) (h : w1msg.toBytes.length < 65536) : IoEnv where
  sendBuf := fun _ => 0
  recvBuf := fun _ => 0
  sendOk := true
  events := recvEvents [singleReply 0 ack w1msg h] ++ [.pollTimeout]

/-- An execution with one reply comes down to one call of the callback. The request is the first
of its handle, and the reply repeats its number. -/
theorem w1MsgExec_singleReply {cfg : Config} {m : W1Msg} (hm : m.WellFormed cfg)
    (hpos : 0 < m.nCmds) (hsize : sizeofW1NetlinkMsg + m.cmdsSize ≤ sizeofMsgBuf) {fuel : ℕ}
    (hfuel : maxW1NetlinkMsgSz < fuel) (hndl : W1Hndl) (mem msgBuf : Mem UInt8) {ack : UInt32}
    {w1msg : W1NetlinkMsg} (h : w1msg.toBytes.length < 65536) (hle : w1msg.toBytes.length ≤ 4076)
    (hans : Answers (m.wireMsg cfg mem (length_wireCmds_lt hsize)) w1msg) {env : IoEnv}
    (hsend : env.sendOk = true)
    (hevents : env.events =
      recvEvents [singleReply (hndl.seq % seqRange) ack w1msg h] ++ [.pollTimeout]) :
    (w1MsgExec cfg fuel hndl m mem msgBuf env).ret =
      let r := w1msgExecCb cfg (.init m) w1msg (decide (ack = ackStatVal))
      some (execRet (if r.1 = .moreReq then .noResp else .success, r.2)) := by
  obtain ⟨hlt, hsent⟩ := w1MsgExec_sent hm hpos hsize fuel hndl mem msgBuf env
  have hplain : ∀ d ∈ [singleReply (hndl.seq % seqRange) ack w1msg h],
      d.IsPlain (hndl.seq % seqRange) := by
    intro d hd
    rw [List.mem_singleton.mp hd]
    exact isPlain_singleReply h hle _
  have harrived : (singleReply (hndl.seq % seqRange) ack w1msg h).arrived
      (requestMsg (hndl.seq % seqRange) _ hlt) = [(w1msg, decide (ack = ackStatVal))] := by
    refine arrived_singleReply h hle ?_
    rw [w1Req_requestMsg]
    exact hans
  rw [w1MsgExec_ret_datagrams hm hpos hsize hfuel hsend hevents hsent hplain (by simp)]
  simp only [List.flatMap_cons, List.flatMap_nil, harrived, List.append_nil,
    List.length_singleton, one_ne_zero, false_or]
  rfl

/-- The execution of `readFour` with one reply. -/
theorem w1MsgExec_readFour (ack : UInt32) (data : List UInt8) (hdata : data.length < 256)
    (h : (readReply data hdata).toBytes.length < 65536) :
    (w1MsgExec ⟨false, .lp64⟩ 4113 w1Init readFour (fun _ => 0) (fun _ => 0)
        (replyEnv ack (readReply data hdata) h)).ret =
      let r := w1msgExecCb ⟨false, .lp64⟩ (.init readFour) (readReply data hdata)
        (decide (ack = ackStatVal))
      some (execRet (if r.1 = .moreReq then .noResp else .success, r.2)) := by
  have hbuilt : Built ⟨false, .lp64⟩ readFour := .addRead (.masterInit 1 1) 100 4
  have hle : (readReply data hdata).toBytes.length ≤ 4076 := by
    rw [length_readReply]
    omega
  exact w1MsgExec_singleReply hbuilt.wellFormed (by decide) (by decide) (by decide) w1Init _ _ h
    hle ⟨rfl, fun _ => rfl, by rintro ⟨⟩⟩ rfl rfl

/-- A reply to the read without data: it is taken, and nothing more is asked for. -/
theorem w1msgExecCb_readFour_status (isStatus : Bool) :
    w1msgExecCb ⟨false, .lp64⟩ (.init readFour) (readReply [] (by decide)) isStatus =
      (.moreOpt, ⟨0, readFour, 0, 1, [(readReply [] (by decide), isStatus)], [0],
        [⟨0, ⟨0, 0, [], by decide⟩⟩], []⟩) := by
  have hchain : W1NetlinkCmd.parser.chain (readReply [] (by decide)).data =
      [⟨0, 0, [], by decide⟩] := W1NetlinkCmd.chain_toBytes _
  rw [w1msgExecCb, hchain]
  cases isStatus <;> rfl

/-- A reply to the read with the data. -/
theorem w1msgExecCb_readFour_data :
    w1msgExecCb ⟨false, .lp64⟩ (.init readFour) (readReply [1, 2, 3, 4] (by decide)) false =
      (.moreOpt, ⟨0, readFour, 0, 1, [(readReply [1, 2, 3, 4] (by decide), false)], [0],
        [⟨0, ⟨0, 0, [1, 2, 3, 4], by decide⟩⟩], [(100, [1, 2, 3, 4])]⟩) := by
  have hchain : W1NetlinkCmd.parser.chain (readReply [1, 2, 3, 4] (by decide)).data =
      [⟨0, 0, [1, 2, 3, 4], by decide⟩] := W1NetlinkCmd.chain_toBytes _
  rw [w1msgExecCb, hchain]
  rfl

/-- A status is taken for the reply to a read: the execution succeeds and nothing was read. -/
theorem not_successMeans_readFour :
    ∃ dta, (w1MsgExec ⟨false, .lp64⟩ 4113 w1Init readFour (fun _ => 0) (fun _ => 0)
        (replyEnv ackStatVal (readReply [] (by decide)) (by decide))).ret =
          some (.success, dta) ∧
      ¬ SuccessMeans ⟨false, .lp64⟩ readFour dta := by
  have hret := w1MsgExec_readFour ackStatVal [] (by decide) (by decide)
  rw [w1msgExecCb_readFour_status] at hret
  refine ⟨_, hret, ?_⟩
  rintro ⟨-, hfilled⟩
  obtain ⟨r, -, w, -, -, -, hw⟩ := hfilled ⟨.read, 4, 100, 0⟩ (by decide) ⟨rfl, by decide⟩
  cases hw

/-- The data is the only reply to a read. -/
theorem w1MsgExec_success_readFour :
    ∃ dta, (w1MsgExec ⟨false, .lp64⟩ 4113 w1Init readFour (fun _ => 0) (fun _ => 0)
        (replyEnv 1 (readReply [1, 2, 3, 4] (by decide)) (by decide))).ret =
          some (.success, dta) ∧ SuccessMeans ⟨false, .lp64⟩ readFour dta := by
  have hret := w1MsgExec_readFour 1 [1, 2, 3, 4] (by decide) (by decide)
  have hack : decide ((1 : UInt32) = ackStatVal) = false := rfl
  rw [hack, w1msgExecCb_readFour_data] at hret
  refine ⟨_, hret, w1MsgExec_success hret ?_ ?_⟩
  · intro pre st post heq _ hlen
    have hmem : st ∈ [ExecStep.mk 0 ⟨0, 0, [1, 2, 3, 4], by decide⟩] := by
      change [_] = _ at heq
      rw [heq]
      simp
    rw [List.mem_singleton.mp hmem] at hlen
    cases hlen
  · intro pre r post heq hnil
    have hmem : r ∈ [(readReply [1, 2, 3, 4] (by decide), false)] := by
      change [_] = _ at heq
      rw [heq]
      simp
    rw [List.mem_singleton.mp hmem, readReply, W1NetlinkCmd.chain_toBytes] at hnil
    cases hnil

end Librasp
