import Librasp.Foundation.Run
import Librasp.W1.Message

/-!
# Runs of the builders of a message

A message lies in a buffer of `get_w1_cmds_bufsz(max_cmds)` bytes, a size that is computed in
`size_t`. A run is an initialisation of whatever the buffer holds, and then calls that set the id,
flush the commands or add one. Along with the message go the bytes that were written, and the
commands that were accepted since the initialisation or the last flush.

`w1Builders_iff` says when all runs are as they should be: if the size of the buffer does not
wrap, which it does on 32-bit systems from `2 ^ 28 - 1` commands on.

* `W1Good` is what is asked of each state: the commands are those accepted, in their order, there
  are at most `max_cmds` of them, and nothing was written outside of the buffer.
* `Takes` are the cases of a call, and `takes_of_step` derives everything about a call from them:
  it sets the id, flushes the commands, is rejected, or stores a command.
* A call that is rejected writes nothing and leaves the message (`unchanged_of_error`).

**Main result.** `w1Builders_iff`, over all runs and both word sizes.
-/

namespace Librasp

theorem WordSize.sizeT_natCast_eq_mod (w : WordSize) (n : ℕ) : w.sizeT n = n % 2 ^ w.bits := by
  have h : (n : ℤ) % 2 ^ w.bits = ((n % 2 ^ w.bits : ℕ) : ℤ) := by push_cast; rfl
  rw [sizeT, h, Int.toNat_natCast]

/-! ### The model -/

/-- `get_w1_cmds_bufsz`, as computed. -/
def WordSize.cmdsBufsz (w : WordSize) (maxCmds : UInt32) : ℕ :=
  w.sizeT (w.getW1CmdsBufsz maxCmds.toNat)

/-- `w1_master_msg_init` or `w1_slave_msg_init`, with the id. -/
inductive W1InitCall
  | master (master : UInt32)
  | slave (slave : UInt64)
  deriving DecidableEq, Repr

namespace W1InitCall

/-- The type of the message. -/
def type : W1InitCall → W1MsgType
  | master _ => .master
  | slave _ => .slave

/-- Its id. -/
def pId : W1InitCall → UInt64
  | master m => m.toUInt64
  | slave s => s

end W1InitCall

/-- A call on a message that is initialised. -/
inductive W1BuildCall
  | setId (pId : UInt64)
  | flushCmds
  | addRead (pData len : ℕ)
  | addWrite (pData len : ℕ)
  | addTouch (pData len : ℕ)
  | addBusReset
  | addWritePullup (pData len : ℕ) (pullup : UInt32)
  deriving DecidableEq, Repr

/-- A message, the bytes written so far (from where, and how many), and the commands accepted. -/
structure W1BuildSt where
  msg : W1Msg
  writes : List (ℕ × ℕ)
  accepted : List W1Cmd

/-- The bytes of the id: at 8, and as many as it has. -/
def idBytes : W1MsgType → ℕ × ℕ
  | .master => (8, 4)
  | .slave => (8, 8)

/-- `n_cmds`. -/
def nCmdsBytes : ℕ × ℕ := (16, 4)

/-- A slot of `cmds[]`. -/
def WordSize.slotBytes (w : WordSize) (i : ℕ) : ℕ × ℕ :=
  (sizeofW1Msg + i * w.sizeofW1Cmd, w.sizeofW1Cmd)

/-- `w1_msg_init`, of a buffer that holds an old message: what is not cleared stays. -/
def w1MsgInitAt (w : WordSize) (old : W1Msg) (c : W1InitCall) (maxCmds : UInt32) : W1BuildSt where
  msg := { w1MsgSetId
      { type := c.type
        mst := if 12 ≤ w.cmdsBufsz maxCmds then 0 else old.mst
        slv := if 16 ≤ w.cmdsBufsz maxCmds then 0 else old.slv
        nCmds := if 20 ≤ w.cmdsBufsz maxCmds then 0 else old.nCmds
        maxCmds := 0
        cmds := fun i => if (w.slotBytes i).1 + (w.slotBytes i).2 ≤ w.cmdsBufsz maxCmds then .zero
          else old.cmds i } c.pId with maxCmds := maxCmds.toNat }
  writes := [(0, w.cmdsBufsz maxCmds), (0, 4), idBytes c.type, (20, 4)]
  accepted := []

/-- The size of `cmds[]` that is cleared by a flush, as computed. -/
def WordSize.flushSize (w : WordSize) (m : W1Msg) : ℕ :=
  w.sizeT (m.maxCmds * w.sizeofW1Cmd : ℕ)

/-- `w1_msg_flush_cmds`, with the size as computed. -/
def w1MsgFlushCmdsAt (w : WordSize) (m : W1Msg) : W1Msg :=
  { m with
    nCmds := 0
    cmds := m.cmds.write 0 (List.replicate (w.flushSize m / w.sizeofW1Cmd) .zero) }

namespace W1BuildCall

/-- What a call returns, if it returns something, and the message after it. -/
def exec (cfg : Config) (m : W1Msg) : W1BuildCall → Option LrErrc × W1Msg
  | setId pId => (none, w1MsgSetId m pId)
  | flushCmds => (none, w1MsgFlushCmdsAt cfg.word m)
  | addRead pData len => ((addReadW1Cmd m pData len).map some id)
  | addWrite pData len => ((addWriteW1Cmd m pData len).map some id)
  | addTouch pData len => ((addTouchW1Cmd m pData len).map some id)
  | addBusReset => ((addBusResetW1Cmd m).map some id)
  | addWritePullup pData len pullup => ((addWritePullupW1Cmd cfg m pData len pullup).map some id)

/-- The bytes a call writes: nothing if it is rejected. -/
def writes (cfg : Config) (m : W1Msg) (c : W1BuildCall) : List (ℕ × ℕ) :=
  match c with
  | setId _ => [idBytes m.type]
  | flushCmds => [nCmdsBytes, (sizeofW1Msg, cfg.word.flushSize m)]
  | _ => if (c.exec cfg m).1 = some .success then [cfg.word.slotBytes m.nCmds, nCmdsBytes] else []

/-- The command that a call is to add, if any: without data it has neither a length nor a
pointer. -/
def cmd : W1BuildCall → Option W1Cmd
  | setId _ => none
  | flushCmds => none
  | addRead pData len => some (ofArgs .read pData len 0)
  | addWrite pData len => some (ofArgs .write pData len 0)
  | addTouch pData len => some (ofArgs .touch pData len 0)
  | addBusReset => some (ofArgs .busReset 0 0 0)
  | addWritePullup pData len pullup => some (ofArgs .writePullup pData len pullup)
where
  ofArgs (type : W1CmdType) (pData len : ℕ) (pullup : UInt32) : W1Cmd :=
    if len ≠ 0 ∧ pData ≠ 0 then ⟨type, len, pData, pullup⟩ else ⟨type, 0, 0, pullup⟩

/-- The commands accepted, after a call with its result. -/
def accept (c : W1BuildCall) (r : Option LrErrc) (l : List W1Cmd) : List W1Cmd :=
  if c = flushCmds then [] else if r = some .success then l ++ c.cmd.toList else l

end W1BuildCall

/-- A call is made. -/
def w1BuildStep (cfg : Config) (s : W1BuildSt) (c : W1BuildCall) : Option W1BuildSt :=
  some ⟨(c.exec cfg s.msg).2, s.writes ++ c.writes cfg s.msg,
    c.accept (c.exec cfg s.msg).1 s.accepted⟩

/-! ### What is asked of a run -/

/-- What is asked of a state that is reached. -/
structure W1Good (cfg : Config) (c : W1InitCall) (maxCmds : UInt32) (s : W1BuildSt) : Prop where
  type_eq : s.msg.type = c.type
  maxCmds_eq : s.msg.maxCmds = maxCmds.toNat
  nCmds_le : s.msg.nCmds ≤ s.msg.maxCmds
  inBuffer : ∀ x ∈ s.writes, x.1 + x.2 ≤ cfg.word.cmdsBufsz maxCmds
  pData : ∀ d ∈ s.msg.cmdList, d.pData ≠ 0 ↔ 0 < d.len
  noReset : c.type = .slave → ∀ d ∈ s.msg.cmdList, d.type ≠ .busReset
  stored : s.msg.cmdList = s.accepted
  rejected : ∀ b : W1BuildCall, (b.exec cfg s.msg).1 = some .noSpace ∨
    (b.exec cfg s.msg).1 = some .invArg →
      (b.exec cfg s.msg).2 = s.msg ∧ b.writes cfg s.msg = []

/-! ### What a call does -/

section Steps

variable {cfg : Config} {maxCmds : UInt32}

theorem W1BuildCall.cmd.ofArgs_type (type : W1CmdType) (pData len : ℕ) (pullup : UInt32) :
    (ofArgs type pData len pullup).type = type := by
  rw [ofArgs]
  split <;> rfl

/-- A command has data exactly when it has a length. -/
theorem W1BuildCall.cmd.ofArgs_pData (type : W1CmdType) (pData len : ℕ) (pullup : UInt32) :
    (ofArgs type pData len pullup).pData ≠ 0 ↔ 0 < (ofArgs type pData len pullup).len := by
  rw [ofArgs]
  split
  · next hdata => exact ⟨fun _ => Nat.pos_of_ne_zero hdata.1, fun _ => hdata.2⟩
  · simp

/-- Adding a command: it is rejected, or there is room for it, and it is stored. Nothing is said
yet of whether the slot is in the buffer. -/
theorem addW1Cmd_result (m : W1Msg) (type : W1CmdType) (pData len : ℕ) (pullup : UInt32) :
    ((addW1Cmd m type pData len pullup).1 ≠ .success ∧
        (addW1Cmd m type pData len pullup).2 = m) ∨
      (m.nCmds < m.maxCmds ∧ ¬ (type = .busReset ∧ m.type = .slave) ∧
        addW1Cmd m type pData len pullup =
          (.success, { m with
            cmds := m.cmds.write m.nCmds [W1BuildCall.cmd.ofArgs type pData len pullup]
            nCmds := m.nCmds + 1 })) := by
  rw [addW1Cmd]
  by_cases hreset : type = .busReset ∧ m.type = .slave
  · rw [if_pos hreset]
    exact Or.inl ⟨by rintro ⟨⟩, rfl⟩
  by_cases hfull : m.maxCmds ≤ m.nCmds
  · rw [if_neg hreset, if_pos hfull]
    exact Or.inl ⟨by rintro ⟨⟩, rfl⟩
  rw [if_neg hreset, if_neg hfull]
  exact Or.inr ⟨not_le.mp hfull, hreset, rfl⟩

namespace W1BuildCall

/-- What a call does, from one state to the next. -/
inductive Takes (cfg : Config) (s : W1BuildSt) : W1BuildCall → W1BuildSt → Prop
  | setId (pId : UInt64) :
      Takes cfg s (.setId pId) ⟨w1MsgSetId s.msg pId, s.writes ++ [idBytes s.msg.type], s.accepted⟩
  | flushCmds :
      Takes cfg s .flushCmds ⟨w1MsgFlushCmdsAt cfg.word s.msg,
        s.writes ++ [nCmdsBytes, (sizeofW1Msg, cfg.word.flushSize s.msg)], []⟩
  | rejected {c : W1BuildCall} : Takes cfg s c s
  | stored {c : W1BuildCall} (hr : (c.exec cfg s.msg).1 = some .success) (d : W1Cmd)
      (hroom : s.msg.nCmds < s.msg.maxCmds)
      (hreset : ¬ (d.type = .busReset ∧ s.msg.type = .slave)) (hdata : d.pData ≠ 0 ↔ 0 < d.len) :
      Takes cfg s c ⟨{ s.msg with
        cmds := s.msg.cmds.write s.msg.nCmds [d], nCmds := s.msg.nCmds + 1 },
        s.writes ++ [cfg.word.slotBytes s.msg.nCmds, nCmdsBytes], s.accepted ++ [d]⟩

/-- The functions that add a command differ in what they pass on. So a lemma about `add_w1_cmd`
makes the cases of all five of them. -/
theorem takes_of_addW1Cmd (s : W1BuildSt) {c : W1BuildCall} {type : W1CmdType} {pData len : ℕ}
    {pullup : UInt32}
    (hexec : c.exec cfg s.msg = (addW1Cmd s.msg type pData len pullup).map some id)
    (hwrites : c.writes cfg s.msg =
      if (c.exec cfg s.msg).1 = some .success then [cfg.word.slotBytes s.msg.nCmds, nCmdsBytes]
      else [])
    (hcmd : c.cmd = some (cmd.ofArgs type pData len pullup)) (hflush : c ≠ .flushCmds) :
    Takes cfg s c ⟨(c.exec cfg s.msg).2, s.writes ++ c.writes cfg s.msg,
      c.accept (c.exec cfg s.msg).1 s.accepted⟩ := by
  rw [hwrites, accept, if_neg hflush, hcmd, hexec]
  obtain ⟨hr, hm⟩ | ⟨hroom, hreset, hadd⟩ := addW1Cmd_result s.msg type pData len pullup
  · have hr' : ¬ ((addW1Cmd s.msg type pData len pullup).map some id).1 = some .success :=
      fun h => hr (Option.some.inj h)
    have hm' : ((addW1Cmd s.msg type pData len pullup).map some id).2 = s.msg := hm
    rw [if_neg hr', if_neg hr', hm', List.append_nil]
    exact .rejected
  · rw [hadd]
    refine .stored (by rw [hexec, hadd]; rfl) _ hroom ?_ (cmd.ofArgs_pData ..)
    rwa [cmd.ofArgs_type]

/-- **Cases of a call.** It sets the id, flushes the commands, is rejected or stores a command. -/
theorem takes_of_step {s s' : W1BuildSt} {c : W1BuildCall} (h : w1BuildStep cfg s c = some s') :
    Takes cfg s c s' := by
  obtain rfl := Option.some.inj h
  cases c with
  | setId pId => exact .setId pId
  | flushCmds => exact .flushCmds
  | addRead pData len => exact takes_of_addW1Cmd s rfl rfl rfl (by rintro ⟨⟩)
  | addWrite pData len => exact takes_of_addW1Cmd s rfl rfl rfl (by rintro ⟨⟩)
  | addTouch pData len => exact takes_of_addW1Cmd s rfl rfl rfl (by rintro ⟨⟩)
  | addBusReset => exact takes_of_addW1Cmd s rfl rfl rfl (by rintro ⟨⟩)
  | addWritePullup pData len pullup =>
    by_cases hcfg : cfg.writePullup
    · have hexec : (addWritePullup pData len pullup).exec cfg s.msg =
          (addW1Cmd s.msg .writePullup pData len pullup).map some id := by
        rw [exec, addWritePullupW1Cmd, if_pos hcfg]
      exact takes_of_addW1Cmd s hexec rfl rfl (by rintro ⟨⟩)
    · have hexec : (addWritePullup pData len pullup).exec cfg s.msg = (some .notSupp, s.msg) := by
        rw [exec, addWritePullupW1Cmd, if_neg hcfg]
        rfl
      have hwrites : (addWritePullup pData len pullup).writes cfg s.msg = [] :=
        if_neg (by rw [hexec]; rintro ⟨⟩)
      rw [hwrites, hexec, List.append_nil]
      exact .rejected

/-- A call that returns an error leaves all as it is. -/
theorem unchanged_of_error (m : W1Msg) {c : W1BuildCall} {e : LrErrc}
    (he : (c.exec cfg m).1 = some e) (hne : e ≠ .success) :
    (c.exec cfg m).2 = m ∧ c.writes cfg m = [] := by
  have h := takes_of_step (rfl : w1BuildStep cfg ⟨m, [], []⟩ c = some _)
  generalize hs : (W1BuildSt.mk (c.exec cfg m).2 ([] ++ c.writes cfg m)
    (c.accept (c.exec cfg m).1 [])) = s at h
  cases h with
  | setId pId => cases he
  | flushCmds => cases he
  | rejected => exact ⟨congrArg W1BuildSt.msg hs, congrArg W1BuildSt.writes hs⟩
  | stored hr => exact absurd (Option.some.inj (he.symm.trans hr)) hne

end W1BuildCall

/-! ### Without a wrap -/

theorem WordSize.cmdsBufsz_eq_mod (w : WordSize) (maxCmds : UInt32) :
    w.cmdsBufsz maxCmds = w.getW1CmdsBufsz maxCmds.toNat % 2 ^ w.bits := by
  rw [cmdsBufsz, sizeT_natCast_eq_mod]

section Fits

variable (hfit : cfg.word.getW1CmdsBufsz maxCmds.toNat < 2 ^ cfg.word.bits)

include hfit

theorem cmdsBufsz_eq : cfg.word.cmdsBufsz maxCmds = cfg.word.getW1CmdsBufsz maxCmds.toNat := by
  rw [WordSize.cmdsBufsz_eq_mod, Nat.mod_eq_of_lt hfit]

theorem header_le_cmdsBufsz : sizeofW1Msg ≤ cfg.word.cmdsBufsz maxCmds := by
  rw [cmdsBufsz_eq hfit]
  exact Nat.le_add_right ..

/-- The slots that a message has are in its buffer. -/
theorem slotBytes_le_cmdsBufsz {i : ℕ} (hi : i < maxCmds.toNat) :
    (cfg.word.slotBytes i).1 + (cfg.word.slotBytes i).2 ≤ cfg.word.cmdsBufsz maxCmds := by
  rw [cmdsBufsz_eq hfit]
  have hmul : (i + 1) * cfg.word.sizeofW1Cmd ≤ maxCmds.toNat * cfg.word.sizeofW1Cmd :=
    Nat.mul_le_mul_right _ hi
  simp only [WordSize.slotBytes, WordSize.getW1CmdsBufsz]
  linarith

/-- A flush clears the slots, all of them and no more. -/
theorem flushSize_eq {m : W1Msg} (hm : m.maxCmds = maxCmds.toNat) :
    cfg.word.flushSize m = m.maxCmds * cfg.word.sizeofW1Cmd := by
  have hlt : maxCmds.toNat * cfg.word.sizeofW1Cmd < 2 ^ cfg.word.bits :=
    lt_of_le_of_lt (Nat.le_add_left ..) hfit
  rw [WordSize.flushSize, WordSize.sizeT_natCast_eq_mod, hm, Nat.mod_eq_of_lt hlt]

/-- It is then what it is without regard to sizes. -/
theorem w1MsgFlushCmdsAt_eq {m : W1Msg} (hm : m.maxCmds = maxCmds.toNat) :
    w1MsgFlushCmdsAt cfg.word m = w1MsgFlushCmds m := by
  have hpos : 0 < cfg.word.sizeofW1Cmd := by cases cfg.word <;> decide
  rw [w1MsgFlushCmdsAt, flushSize_eq hfit hm, Nat.mul_div_cancel _ hpos, w1MsgFlushCmds]

/-- A header is in the buffer. -/
theorem idBytes_le_cmdsBufsz (t : W1MsgType) :
    (idBytes t).1 + (idBytes t).2 ≤ cfg.word.cmdsBufsz maxCmds := by
  refine le_trans ?_ (header_le_cmdsBufsz hfit)
  cases t <;> decide

theorem nCmdsBytes_le_cmdsBufsz : nCmdsBytes.1 + nCmdsBytes.2 ≤ cfg.word.cmdsBufsz maxCmds :=
  le_trans (by decide) (header_le_cmdsBufsz hfit)

/-- **Step.** A call on a message that is as it should be leaves it so. The cases are those of
`Takes`; a command that is stored is in the buffer, as the size does not wrap. -/
theorem W1Good.step {i : W1InitCall} {s s' : W1BuildSt} {c : W1BuildCall}
    (hs : W1Good cfg i maxCmds s) (h : w1BuildStep cfg s c = some s') :
    W1Good cfg i maxCmds s' := by
  have hrej : ∀ b : W1BuildCall, (b.exec cfg s'.msg).1 = some .noSpace ∨
      (b.exec cfg s'.msg).1 = some .invArg →
        (b.exec cfg s'.msg).2 = s'.msg ∧ b.writes cfg s'.msg = [] := by
    rintro b (he | he) <;> exact W1BuildCall.unchanged_of_error s'.msg he (by rintro ⟨⟩)
  cases W1BuildCall.takes_of_step h with
  | setId pId =>
    refine ⟨by simpa using hs.type_eq, by simpa using hs.maxCmds_eq, by simpa using hs.nCmds_le,
      fun x hx => ?_, by simpa using hs.pData, by simpa using hs.noReset,
      by simpa using hs.stored, hrej⟩
    obtain hx | hx := List.mem_append.mp hx
    · exact hs.inBuffer x hx
    · exact List.mem_singleton.mp hx ▸ idBytes_le_cmdsBufsz hfit _
  | flushCmds =>
    refine ⟨hs.type_eq, hs.maxCmds_eq, Nat.zero_le _, fun x hx => ?_, List.forall_mem_nil _,
      fun _ => List.forall_mem_nil _, rfl, hrej⟩
    obtain hx | hx := List.mem_append.mp hx
    · exact hs.inBuffer x hx
    obtain rfl | hx := List.mem_cons.mp hx
    · exact nCmdsBytes_le_cmdsBufsz hfit
    · rw [List.mem_singleton.mp hx, flushSize_eq hfit hs.maxCmds_eq, cmdsBufsz_eq hfit,
        hs.maxCmds_eq]
      exact le_rfl
  | rejected => exact hs
  | stored hr d hroom hreset hdata =>
    have hlist : W1Msg.cmdList { s.msg with
        cmds := s.msg.cmds.write s.msg.nCmds [d], nCmds := s.msg.nCmds + 1 } =
        s.msg.cmdList ++ [d] := cmdList_append s.msg d
    refine ⟨hs.type_eq, hs.maxCmds_eq, hroom, fun x hx => ?_, fun e he => ?_, fun ht e he => ?_,
      hlist.trans (by rw [hs.stored]), hrej⟩
    · obtain hx | hx := List.mem_append.mp hx
      · exact hs.inBuffer x hx
      obtain rfl | hx := List.mem_cons.mp hx
      · exact slotBytes_le_cmdsBufsz hfit (hs.maxCmds_eq ▸ hroom)
      · exact List.mem_singleton.mp hx ▸ nCmdsBytes_le_cmdsBufsz hfit
    · rw [hlist, List.mem_append, List.mem_singleton] at he
      obtain he | rfl := he
      · exact hs.pData e he
      · exact hdata
    · rw [hlist, List.mem_append, List.mem_singleton] at he
      obtain he | rfl := he
      · exact hs.noReset ht e he
      · exact fun hbus => hreset ⟨hbus, hs.type_eq.trans ht⟩

/-- An initialisation is, as far as the buffer goes, what it is without regard to sizes. -/
theorem w1MsgInitAt_eq (old : W1Msg) (i : W1InitCall) :
    (w1MsgInitAt cfg.word old i maxCmds).msg = { w1MsgInit i.type i.pId maxCmds with
        cmds := (w1MsgInitAt cfg.word old i maxCmds).msg.cmds } ∧
      ∀ j < maxCmds.toNat, (w1MsgInitAt cfg.word old i maxCmds).msg.cmds j = .zero := by
  have hsize : 24 ≤ cfg.word.cmdsBufsz maxCmds := header_le_cmdsBufsz hfit
  constructor
  · rw [w1MsgInitAt, if_pos (by omega), if_pos (by omega), if_pos (by omega), w1MsgInit]
    cases i <;> rfl
  · intro j hj
    have hslot := slotBytes_le_cmdsBufsz hfit hj
    cases i <;> exact if_pos hslot

/-- What an initialisation makes of the buffer: whatever it held, there are no commands then, and
the commands cleared are the slots of the buffer. -/
theorem W1Good.init (old : W1Msg) (i : W1InitCall) :
    W1Good cfg i maxCmds (w1MsgInitAt cfg.word old i maxCmds) := by
  have hsize : 24 ≤ cfg.word.cmdsBufsz maxCmds := header_le_cmdsBufsz hfit
  have hn : (w1MsgInitAt cfg.word old i maxCmds).msg.nCmds = 0 := by
    refine (w1MsgSetId_nCmds ..).trans ?_
    exact if_pos (by omega)
  have hlist : (w1MsgInitAt cfg.word old i maxCmds).msg.cmdList = [] := by
    rw [W1Msg.cmdList, hn, Mem.read_zero]
  refine ⟨w1MsgSetId_type .., rfl, hn ▸ Nat.zero_le _, fun x hx => ?_, ?_, fun _ => ?_, hlist,
    ?_⟩
  · simp only [w1MsgInitAt, List.mem_cons, List.not_mem_nil, or_false] at hx
    obtain rfl | rfl | rfl | rfl := hx
    · exact (Nat.zero_add _).le
    · exact le_trans (by decide) hsize
    · exact idBytes_le_cmdsBufsz hfit _
    · exact hsize
  · rw [hlist]
    exact List.forall_mem_nil _
  · rw [hlist]
    exact List.forall_mem_nil _
  · rintro b (he | he) <;> exact W1BuildCall.unchanged_of_error _ he (by rintro ⟨⟩)

/-- **Runs.** Every state of a run is as it should be, if the size of the buffer does not wrap.
The induction is on the calls, by `W1Good.step`. -/
theorem W1Good.run {old : W1Msg} {i : W1InitCall} {calls : List W1BuildCall} {s : W1BuildSt}
    (h : Run.run (w1BuildStep cfg) (w1MsgInitAt cfg.word old i maxCmds) calls = some s) :
    W1Good cfg i maxCmds s :=
  Run.run_invariant (fun _ _ _ hs _ hstep => hs.step hfit hstep) (W1Good.init hfit old i)
    (Run.meets_true _ _) h

end Fits

/-! ### With a wrap -/

/-- A read without data is accepted as long as there is room. -/
theorem w1BuildStep_addRead {s : W1BuildSt} (hroom : s.msg.nCmds < s.msg.maxCmds) :
    w1BuildStep cfg s (.addRead 0 0) = some ⟨{ s.msg with
      cmds := s.msg.cmds.write s.msg.nCmds [.zero], nCmds := s.msg.nCmds + 1 },
      s.writes ++ [cfg.word.slotBytes s.msg.nCmds, nCmdsBytes], s.accepted ++ [.zero]⟩ := by
  have hadd : addReadW1Cmd s.msg 0 0 = (.success, { s.msg with
      cmds := s.msg.cmds.write s.msg.nCmds [.zero], nCmds := s.msg.nCmds + 1 }) := by
    rw [addReadW1Cmd, addW1Cmd, if_neg (by rintro ⟨⟨⟩, -⟩), if_neg (not_le.mpr hroom)]
    rfl
  have hexec : W1BuildCall.exec cfg s.msg (.addRead 0 0) = (some .success, { s.msg with
      cmds := s.msg.cmds.write s.msg.nCmds [.zero], nCmds := s.msg.nCmds + 1 }) := by
    rw [W1BuildCall.exec, hadd]
    rfl
  have hwrites : (W1BuildCall.addRead 0 0).writes cfg s.msg =
      [cfg.word.slotBytes s.msg.nCmds, nCmdsBytes] := if_pos (by rw [hexec])
  have haccept : (W1BuildCall.addRead 0 0).accept (some .success) s.accepted =
      s.accepted ++ [.zero] := by
    rw [W1BuildCall.accept, if_neg (by rintro ⟨⟩), if_pos rfl]
    rfl
  rw [w1BuildStep, hwrites, hexec, haccept]

/-- Adding as many of them writes the slots one after the other. The induction is on how many are
still to be added. -/
theorem run_addRead (cfg : Config) (k : ℕ) {s : W1BuildSt}
    (hroom : s.msg.nCmds + k ≤ s.msg.maxCmds) :
    ∃ t, Run.run (w1BuildStep cfg) s (List.replicate k (.addRead 0 0)) = some t ∧
      s.writes ⊆ t.writes ∧
      ∀ j < k, cfg.word.slotBytes (s.msg.nCmds + j) ∈ t.writes := by
  induction k generalizing s with
  | zero => exact ⟨s, rfl, List.Subset.refl _, fun j hj => absurd hj (Nat.not_lt_zero j)⟩
  | succ k ih =>
    have hstep : w1BuildStep cfg s (.addRead 0 0) = some _ := w1BuildStep_addRead (by omega)
    obtain ⟨t, hrun, hsub, hslot⟩ := ih (s := ⟨{ s.msg with
      cmds := s.msg.cmds.write s.msg.nCmds [.zero], nCmds := s.msg.nCmds + 1 },
      s.writes ++ [cfg.word.slotBytes s.msg.nCmds, nCmdsBytes], s.accepted ++ [.zero]⟩)
      (by simp only; omega)
    refine ⟨t, ?_, fun x hx => hsub (List.mem_append_left _ hx), fun j hj => ?_⟩
    · rw [List.replicate_succ, Run.run_cons hstep, hrun]
    · cases j with
      | zero => exact hsub (List.mem_append_right _ (List.mem_cons_self ..))
      | succ j =>
        have hj' := hslot j (by omega)
        rwa [show s.msg.nCmds + (j + 1) = s.msg.nCmds + 1 + j by omega]

/-- If the size wraps, the last command that is accepted is beyond the buffer. The run that shows
it adds reads without data, of which there is room for any number by the message's own count. -/
theorem exists_not_w1Good (hwrap : 2 ^ cfg.word.bits ≤ cfg.word.getW1CmdsBufsz maxCmds.toNat)
    (i : W1InitCall) : ∃ old calls s,
      Run.run (w1BuildStep cfg) (w1MsgInitAt cfg.word old i maxCmds) calls = some s ∧
        ¬ W1Good cfg i maxCmds s := by
  have hhdr : sizeofW1Msg < 2 ^ cfg.word.bits :=
    lt_of_lt_of_le (by decide) cfg.word.two_pow_bits_ge
  have hpos : 0 < maxCmds.toNat := by
    refine Nat.pos_of_ne_zero fun h => ?_
    rw [WordSize.getW1CmdsBufsz, h, Nat.zero_mul] at hwrap
    omega
  have hn : (w1MsgInitAt cfg.word (w1MsgInit i.type 0 0) i maxCmds).msg.nCmds = 0 := by
    refine (w1MsgSetId_nCmds ..).trans ?_
    exact ite_eq_left_iff.mpr fun _ => w1MsgSetId_nCmds ..
  have hroom : (w1MsgInitAt cfg.word (w1MsgInit i.type 0 0) i maxCmds).msg.nCmds +
      maxCmds.toNat ≤ (w1MsgInitAt cfg.word (w1MsgInit i.type 0 0) i maxCmds).msg.maxCmds := by
    rw [hn, Nat.zero_add]
    exact le_rfl
  obtain ⟨s, hrun, -, hslot⟩ := run_addRead cfg _ hroom
  refine ⟨_, _, s, hrun, fun hs => ?_⟩
  have hlast := hs.inBuffer _ (hslot (maxCmds.toNat - 1) (by omega))
  have hlt : cfg.word.cmdsBufsz maxCmds < 2 ^ cfg.word.bits := by
    rw [WordSize.cmdsBufsz_eq_mod]
    exact Nat.mod_lt _ (Nat.two_pow_pos _)
  have hend : (cfg.word.slotBytes (0 + (maxCmds.toNat - 1))).1 +
      (cfg.word.slotBytes (0 + (maxCmds.toNat - 1))).2 =
        cfg.word.getW1CmdsBufsz maxCmds.toNat := by
    obtain ⟨n, hn⟩ := Nat.exists_eq_add_of_lt hpos
    rw [hn]
    simp only [WordSize.slotBytes, WordSize.getW1CmdsBufsz, Nat.zero_add, Nat.add_sub_cancel]
    ring
  rw [hn, hend] at hlast
  omega

end Steps

/-- The size does not wrap on 64-bit systems, and on 32-bit systems up to some number of
commands. -/
theorem getW1CmdsBufsz_lt_iff (w : WordSize) (maxCmds : UInt32) :
    w.getW1CmdsBufsz maxCmds.toNat < 2 ^ w.bits ↔ (w = .ilp32 → maxCmds.toNat < 2 ^ 28 - 1) := by
  have hlt := maxCmds.toNat_lt
  cases w with
  | ilp32 =>
    have hsize : WordSize.ilp32.getW1CmdsBufsz maxCmds.toNat = 24 + maxCmds.toNat * 16 := rfl
    rw [hsize, WordSize.bits]
    exact ⟨fun h _ => by omega, fun h => by have := h rfl; omega⟩
  | lp64 =>
    have hsize : WordSize.lp64.getW1CmdsBufsz maxCmds.toNat = 24 + maxCmds.toNat * 32 := rfl
    rw [hsize, WordSize.bits]
    exact iff_of_true (by omega) (by rintro ⟨⟩)

/-- **Builders.** Whatever a buffer of `get_w1_cmds_bufsz(max_cmds)` bytes holds, and whatever the
calls after the initialisation, the message is as it should be and nothing is written beyond the
buffer, just when the size of the buffer does not wrap. -/
theorem w1Builders_iff (cfg : Config) (i : W1InitCall) (maxCmds : UInt32) :
    (∀ old calls s,
      Run.run (w1BuildStep cfg) (w1MsgInitAt cfg.word old i maxCmds) calls = some s →
        W1Good cfg i maxCmds s) ↔
      (cfg.word = .ilp32 → maxCmds.toNat < 2 ^ 28 - 1) := by
  rw [← getW1CmdsBufsz_lt_iff]
  constructor
  · intro h
    by_contra hwrap
    obtain ⟨old, calls, s, hrun, hs⟩ := exists_not_w1Good (not_lt.mp hwrap) i
    exact hs (h old calls s hrun)
  · intro hfit old calls s h
    exact W1Good.run hfit h

/-- On a 32-bit system the buffer for `2 ^ 28` commands has 24 bytes, and the first command is
written behind it. -/
theorem w1Builders_wraps :
    WordSize.ilp32.cmdsBufsz 0x10000000 = 24 ∧
      ∃ s, Run.run (w1BuildStep ⟨false, .ilp32⟩)
          (w1MsgInitAt .ilp32 (w1MsgInit .master 0 0) (.master 1) 0x10000000) [.addRead 0 0] =
            some s ∧
        (24, 16) ∈ s.writes ∧ ¬ W1Good ⟨false, .ilp32⟩ (.master 1) 0x10000000 s := by
  have hsize : WordSize.ilp32.cmdsBufsz 0x10000000 = 24 := rfl
  have hout : ∀ s : W1BuildSt, (24, 16) ∈ s.writes →
      (24, 16) ∈ s.writes ∧ ¬ W1Good ⟨false, .ilp32⟩ (.master 1) 0x10000000 s := by
    refine fun s hmem => ⟨hmem, fun hs => ?_⟩
    have hle := hs.inBuffer _ hmem
    rw [hsize] at hle
    omega
  exact ⟨hsize, _, rfl, hout _ (by decide)⟩

end Librasp
