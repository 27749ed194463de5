import Librasp.Common
import Librasp.Foundation.Memory

/-!
# w1 messages and their builders

A w1 message is a list of commands for a master or for a slave. The flexible array `cmds[]`
of `w1_msg_t` is a memory of commands here, of which the first `nCmds` are in use: what the
code reads beyond them is not excluded by the type.

`Built cfg` are the messages that the initialisers, `w1_msg_set_id`, `w1_msg_flush_cmds` and
the `add_*_w1_cmd` functions produce. They keep `W1Msg.WellFormed` (`Built.wellFormed`), and
that invariant is all that the execution of a message relies on.

The caller owns the message and its data buffers. `W1Msg.Placed` says where in the address
space they are: apart from one another. This bounds the size of the message, so that the
`size_t` sums over its commands cannot wrap (`W1Msg.Placed.cmdsSize_lt`).
-/

namespace Librasp

/-! ### The data -/

/-- `w1_msg_type_t`. -/
inductive W1MsgType
  | master
  | slave
  deriving DecidableEq, Repr

/-- `w1_cmd_type`. -/
inductive W1CmdType
  | read
  | write
  | touch
  /-- Master only. -/
  | busReset
  /-- The library must be configured to handle this command type. -/
  | writePullup
  deriving DecidableEq, Repr

/-- `IS_RESP_REQUIRED`. -/
def W1CmdType.isRespRequired (t : W1CmdType) : Bool := t = .read ∨ t = .touch

/-- `w1_cmd_t`. The data pointer is an address of the caller's memory, 0 for `NULL`. -/
structure W1Cmd where
  type : W1CmdType
  /-- A `size_t`. -/
  len : ℕ
  pData : ℕ
  pullup : UInt32
  deriving DecidableEq, Repr

/-- A read or touch command of non-zero length. -/
def W1Cmd.NeedsData (c : W1Cmd) : Prop := c.type.isRespRequired = true ∧ 0 < c.len

instance (c : W1Cmd) : Decidable c.NeedsData := inferInstanceAs (Decidable (_ ∧ _))

/-- A zeroed slot of `cmds[]`. -/
def W1Cmd.zero : W1Cmd := ⟨.read, 0, 0, 0⟩

/-- `w1_msg_t`. The `id` is a union: `mst` is read of a master message, `slv` of a slave
message. -/
structure W1Msg where
  type : W1MsgType
  mst : UInt32
  slv : UInt64
  nCmds : ℕ
  maxCmds : ℕ
  cmds : Mem W1Cmd

/-- The commands of a message. -/
def W1Msg.cmdList (m : W1Msg) : List W1Cmd := m.cmds.read 0 m.nCmds

/-! ### The builders -/

/-- `w1_msg_set_id`. `p_id` points to a 32-bit id for a master message and to a 64-bit id for
a slave message; a 32-bit id is zero-extended here. -/
def w1MsgSetId (m : W1Msg) (pId : UInt64) : W1Msg :=
  match m.type with
  | .master => { m with mst := pId.toUInt32 }
  | .slave => { m with slv := pId }

/-- `w1_msg_init`. -/
def w1MsgInit (type : W1MsgType) (pId : UInt64) (maxCmds : UInt32) : W1Msg :=
  { w1MsgSetId ⟨type, 0, 0, 0, 0, fun _ => .zero⟩ pId with maxCmds := maxCmds.toNat }

/-- `w1_master_msg_init`. -/
def w1MasterMsgInit (master : UInt32) (maxCmds : UInt32) : W1Msg :=
  w1MsgInit .master master.toUInt64 maxCmds

/-- `w1_slave_msg_init`. -/
def w1SlaveMsgInit (slave : UInt64) (maxCmds : UInt32) : W1Msg :=
  w1MsgInit .slave slave maxCmds

/-- `w1_msg_flush_cmds`. -/
def w1MsgFlushCmds (m : W1Msg) : W1Msg :=
  { m with nCmds := 0, cmds := m.cmds.write 0 (List.replicate m.maxCmds .zero) }

/-- `add_w1_cmd`. -/
def addW1Cmd (m : W1Msg) (type : W1CmdType) (pData len : ℕ) (pullup : UInt32) :
    LrErrc × W1Msg :=
  if type = .busReset ∧ m.type = .slave then (.invArg, m)
  else if m.maxCmds ≤ m.nCmds then (.noSpace, m)
  else
    let cmd : W1Cmd :=
      if len ≠ 0 ∧ pData ≠ 0 then ⟨type, len, pData, pullup⟩ else ⟨type, 0, 0, pullup⟩
    (.success, { m with cmds := m.cmds.write m.nCmds [cmd], nCmds := m.nCmds + 1 })

/-- `add_read_w1_cmd`. -/
def addReadW1Cmd (m : W1Msg) (pData len : ℕ) : LrErrc × W1Msg := addW1Cmd m .read pData len 0

/-- `add_write_w1_cmd`. -/
def addWriteW1Cmd (m : W1Msg) (pData len : ℕ) : LrErrc × W1Msg := addW1Cmd m .write pData len 0

/-- `add_touch_w1_cmd`. -/
def addTouchW1Cmd (m : W1Msg) (pData len : ℕ) : LrErrc × W1Msg := addW1Cmd m .touch pData len 0

/-- `add_bus_reset_w1_cmd`. -/
def addBusResetW1Cmd (m : W1Msg) : LrErrc × W1Msg := addW1Cmd m .busReset 0 0 0

/-- `add_write_pullup_w1_cmd`. -/
def addWritePullupW1Cmd (cfg : Config) (m : W1Msg) (pData len : ℕ) (pullup : UInt32) :
    LrErrc × W1Msg :=
  if cfg.writePullup then addW1Cmd m .writePullup pData len pullup else (.notSupp, m)

/-- The messages that the builder functions produce. -/
inductive Built (cfg : Config) : W1Msg → Prop
  | masterInit (master maxCmds : UInt32) : Built cfg (w1MasterMsgInit master maxCmds)
  | slaveInit (slave : UInt64) (maxCmds : UInt32) : Built cfg (w1SlaveMsgInit slave maxCmds)
  | setId {m : W1Msg} (hm : Built cfg m) (pId : UInt64) : Built cfg (w1MsgSetId m pId)
  | flushCmds {m : W1Msg} (hm : Built cfg m) : Built cfg (w1MsgFlushCmds m)
  | addRead {m : W1Msg} (hm : Built cfg m) (pData len : ℕ) :
      Built cfg (addReadW1Cmd m pData len).2
  | addWrite {m : W1Msg} (hm : Built cfg m) (pData len : ℕ) :
      Built cfg (addWriteW1Cmd m pData len).2
  | addTouch {m : W1Msg} (hm : Built cfg m) (pData len : ℕ) :
      Built cfg (addTouchW1Cmd m pData len).2
  | addBusReset {m : W1Msg} (hm : Built cfg m) : Built cfg (addBusResetW1Cmd m).2
  | addWritePullup {m : W1Msg} (hm : Built cfg m) (pData len : ℕ) (pullup : UInt32) :
      Built cfg (addWritePullupW1Cmd cfg m pData len pullup).2

/-! ### The invariant -/

/-- A command that the builder functions store in a message. -/
structure W1Cmd.WellFormed (cfg : Config) (type : W1MsgType) (c : W1Cmd) : Prop where
  /-- There is a buffer exactly when there is data. -/
  pData_eq_zero_iff : c.pData = 0 ↔ c.len = 0
  busReset : c.type = .busReset → type = .master ∧ c.len = 0
  writePullup : c.type = .writePullup → cfg.writePullup = true

/-- What the builder functions keep of a message. -/
structure W1Msg.WellFormed (cfg : Config) (m : W1Msg) : Prop where
  nCmds_le : m.nCmds ≤ m.maxCmds
  maxCmds_lt : m.maxCmds < 2 ^ 32
  cmd : ∀ c ∈ m.cmdList, c.WellFormed cfg m.type

namespace W1Msg

variable {cfg : Config} {m : W1Msg}

@[simp]
theorem length_cmdList (m : W1Msg) : m.cmdList.length = m.nCmds := by simp [cmdList]

theorem getElem_cmdList {i : ℕ} (h : i < m.cmdList.length) : m.cmdList[i] = m.cmds i := by
  simp [cmdList, Mem.getElem_read]

theorem mem_cmdList {i : ℕ} (h : i < m.nCmds) : m.cmds i ∈ m.cmdList := by
  have hi : i < m.cmdList.length := by simpa using h
  exact getElem_cmdList hi ▸ List.getElem_mem hi

end W1Msg

section Builders

variable {cfg : Config} {m : W1Msg}

@[simp]
theorem w1MsgSetId_type (m : W1Msg) (pId : UInt64) : (w1MsgSetId m pId).type = m.type := by
  rw [w1MsgSetId]
  split <;> rfl

@[simp]
theorem w1MsgSetId_nCmds (m : W1Msg) (pId : UInt64) : (w1MsgSetId m pId).nCmds = m.nCmds := by
  rw [w1MsgSetId]
  split <;> rfl

@[simp]
theorem w1MsgSetId_maxCmds (m : W1Msg) (pId : UInt64) :
    (w1MsgSetId m pId).maxCmds = m.maxCmds := by
  rw [w1MsgSetId]
  split <;> rfl

@[simp]
theorem w1MsgSetId_cmdList (m : W1Msg) (pId : UInt64) :
    (w1MsgSetId m pId).cmdList = m.cmdList := by
  rw [w1MsgSetId]
  split <;> rfl

@[simp]
theorem w1MsgFlushCmds_cmdList (m : W1Msg) : (w1MsgFlushCmds m).cmdList = [] := rfl

/-- A fresh message is well formed. -/
theorem wellFormed_w1MsgInit (type : W1MsgType) (pId : UInt64) (maxCmds : UInt32) :
    (w1MsgInit type pId maxCmds).WellFormed cfg := by
  have hn : (w1MsgInit type pId maxCmds).nCmds = 0 := w1MsgSetId_nCmds _ _
  have hlist : (w1MsgInit type pId maxCmds).cmdList = [] := by
    rw [W1Msg.cmdList, hn, Mem.read_zero]
  refine ⟨hn ▸ Nat.zero_le _, maxCmds.toNat_lt, ?_⟩
  rw [hlist]
  rintro c ⟨⟩

/-- A command that is accepted goes to the end of the list. It is as it was passed, but that one
without data has neither a length nor a pointer. -/
theorem addW1Cmd_cases (m : W1Msg) (type : W1CmdType) (pData len : ℕ) (pullup : UInt32) :
    (addW1Cmd m type pData len pullup).2 = m ∨
      ¬ (type = .busReset ∧ m.type = .slave) ∧ m.nCmds < m.maxCmds ∧
        ∃ c : W1Cmd, c.type = type ∧ c.pullup = pullup ∧
          (len ≠ 0 ∧ pData ≠ 0 ∧ c.len = len ∧ c.pData = pData ∨
            (len = 0 ∨ pData = 0) ∧ c.len = 0 ∧ c.pData = 0) ∧
          (addW1Cmd m type pData len pullup).2 =
            { m with cmds := m.cmds.write m.nCmds [c], nCmds := m.nCmds + 1 } := by
  rw [addW1Cmd]
  by_cases hreset : type = .busReset ∧ m.type = .slave
  · exact .inl (by rw [if_pos hreset])
  by_cases hfull : m.maxCmds ≤ m.nCmds
  · exact .inl (by rw [if_neg hreset, if_pos hfull])
  right
  refine ⟨hreset, not_le.mp hfull, ?_⟩
  rw [if_neg hreset, if_neg hfull]
  by_cases hdata : len ≠ 0 ∧ pData ≠ 0
  · refine ⟨⟨type, len, pData, pullup⟩, rfl, rfl, .inl ⟨hdata.1, hdata.2, rfl, rfl⟩, ?_⟩
    simp only [if_pos hdata]
  · refine ⟨⟨type, 0, 0, pullup⟩, rfl, rfl, .inr ⟨by tauto, rfl, rfl⟩, ?_⟩
    simp only [if_neg hdata]

/-- A command with a buffer exactly when it has data is stored as it is given. -/
theorem addW1Cmd_eq (m : W1Msg) {type : W1CmdType} {pData len : ℕ} (pullup : UInt32)
    (hreset : ¬ (type = .busReset ∧ m.type = .slave)) (hroom : m.nCmds < m.maxCmds)
    (hdata : pData = 0 ↔ len = 0) : (addW1Cmd m type pData len pullup).2 =
      { m with
        cmds := m.cmds.write m.nCmds [⟨type, len, pData, pullup⟩], nCmds := m.nCmds + 1 } := by
  rw [addW1Cmd, if_neg hreset, if_neg (not_le.mpr hroom)]
  by_cases hlen : len = 0
  · have hp : pData = 0 := hdata.mpr hlen
    simp [hlen, hp]
  · have hp : pData ≠ 0 := fun h => hlen (hdata.mp h)
    simp [hlen, hp]

/-- The list of a message to which a command was appended. -/
theorem cmdList_append (m : W1Msg) (c : W1Cmd) :
    W1Msg.cmdList { m with cmds := m.cmds.write m.nCmds [c], nCmds := m.nCmds + 1 } =
      m.cmdList ++ [c] := by
  simpa [W1Msg.cmdList] using Mem.read_write_append m.cmds 0 m.nCmds [c]

/-- Adding a command keeps a message well formed, if it is one that the functions add: a reset has
no data, and a pull-up is only added where the library is configured for it. -/
theorem wellFormed_addW1Cmd (hm : m.WellFormed cfg) {type : W1CmdType} {pData len : ℕ}
    {pullup : UInt32} (hreset : type = .busReset → len = 0)
    (hpullup : type = .writePullup → cfg.writePullup = true) :
    (addW1Cmd m type pData len pullup).2.WellFormed cfg := by
  obtain heq | ⟨hslave, hroom, c, htype, -, hdata, heq⟩ := addW1Cmd_cases m type pData len pullup
  · rwa [heq]
  rw [heq]
  refine ⟨hroom, hm.maxCmds_lt, fun d hd => ?_⟩
  rw [cmdList_append, List.mem_append, List.mem_singleton] at hd
  obtain hd | rfl := hd
  · exact hm.cmd d hd
  · refine ⟨by omega, fun ht => ⟨?_, ?_⟩, fun ht => hpullup (htype ▸ ht)⟩
    · have hnot : m.type ≠ .slave := fun h => hslave ⟨htype ▸ ht, h⟩
      show m.type = .master
      cases h : m.type with
      | master => rfl
      | slave => exact absurd h hnot
    · have := hreset (htype ▸ ht)
      omega

/-- **Builder invariant.** Every message that the builder functions produce is well formed. The
induction is on how it was built, by a lemma for each function. -/
theorem Built.wellFormed (hm : Built cfg m) : m.WellFormed cfg := by
  induction hm with
  | masterInit master maxCmds => exact wellFormed_w1MsgInit ..
  | slaveInit slave maxCmds => exact wellFormed_w1MsgInit ..
  | setId hm pId ih =>
    obtain ⟨hle, hlt, hcmd⟩ := ih
    exact ⟨by simpa using hle, by simpa using hlt, by simpa using hcmd⟩
  | flushCmds hm ih =>
    refine ⟨Nat.zero_le _, ih.maxCmds_lt, ?_⟩
    rw [w1MsgFlushCmds_cmdList]
    rintro c ⟨⟩
  | addRead hm pData len ih =>
    exact wellFormed_addW1Cmd ih (by rintro ⟨⟩) (by rintro ⟨⟩)
  | addWrite hm pData len ih =>
    exact wellFormed_addW1Cmd ih (by rintro ⟨⟩) (by rintro ⟨⟩)
  | addTouch hm pData len ih =>
    exact wellFormed_addW1Cmd ih (by rintro ⟨⟩) (by rintro ⟨⟩)
  | addBusReset hm ih => exact wellFormed_addW1Cmd ih (fun _ => rfl) (by rintro ⟨⟩)
  | addWritePullup hm pData len pullup ih =>
    rw [addWritePullupW1Cmd]
    split
    · next hcfg => exact wellFormed_addW1Cmd ih (by rintro ⟨⟩) fun _ => hcfg
    · exact ih

end Builders

/-! ### The size of a message -/

/-- The room a command takes up in a w1 netlink message: a header, the data, and the pull-up
in front of the data of a write with a pull-up. -/
def W1Cmd.size (c : W1Cmd) : ℕ := 4 + c.len + if c.type = .writePullup then 2 else 0

/-- The room the commands of a message take up. -/
def W1Msg.cmdsSize (m : W1Msg) : ℕ := (m.cmdList.map W1Cmd.size).sum

/-- `sizeof(w1_msg_t)`. -/
def sizeofW1Msg : ℕ := 24

/-- `sizeof(w1_cmd_t)`. -/
def WordSize.sizeofW1Cmd : WordSize → ℕ
  | .ilp32 => 16
  | .lp64 => 32

/-- `get_w1_cmds_bufsz`. -/
def WordSize.getW1CmdsBufsz (w : WordSize) (n : ℕ) : ℕ := sizeofW1Msg + n * w.sizeofW1Cmd

/-- The message object is at `base`, and neither it nor any of the command buffers overlaps
another one. -/
structure W1Msg.Placed (w : WordSize) (m : W1Msg) (base : ℕ) : Prop where
  msg_fits : base + w.getW1CmdsBufsz m.maxCmds ≤ 2 ^ w.bits
  buf_fits : ∀ c ∈ m.cmdList, c.pData + c.len ≤ 2 ^ w.bits
  buf_msg : ∀ c ∈ m.cmdList, Apart c.pData c.len base (w.getW1CmdsBufsz m.maxCmds)
  buf_buf : m.cmdList.Pairwise fun c d => Apart c.pData c.len d.pData d.len

private theorem cmdsSize_le (l : List W1Cmd) :
    (l.map W1Cmd.size).sum ≤ (l.map W1Cmd.len).sum + 6 * l.length := by
  induction l with
  | nil => simp
  | cons c l ih =>
    have hc : c.size ≤ c.len + 6 := by
      rw [W1Cmd.size]
      split <;> omega
    simp only [List.map_cons, List.sum_cons, List.length_cons]
    omega

/-- **No wrap-around.** A message that has a place in memory, along with its buffers, is too
small for the `size_t` sums over its commands to wrap. -/
theorem W1Msg.Placed.cmdsSize_lt {w : WordSize} {m : W1Msg} {base : ℕ} (h : m.Placed w base)
    (hn : m.nCmds ≤ m.maxCmds) : 12 + m.cmdsSize < 2 ^ w.bits := by
  have hpair : ((base, w.getW1CmdsBufsz m.maxCmds) ::
      m.cmdList.map fun c => (c.pData, c.len)).Pairwise fun x y => Apart x.1 x.2 y.1 y.2 := by
    refine List.pairwise_cons.mpr ⟨fun y hy => ?_, ?_⟩
    · obtain ⟨c, hc, rfl⟩ := List.mem_map.mp hy
      have := h.buf_msg c hc
      simp only [Apart] at this ⊢
      omega
    · exact List.pairwise_map.mpr h.buf_buf
  have hfits : ∀ x ∈ (base, w.getW1CmdsBufsz m.maxCmds) ::
      m.cmdList.map fun c => (c.pData, c.len), x.1 + x.2 ≤ 2 ^ w.bits := by
    rintro x hx
    rcases List.mem_cons.mp hx with rfl | hx
    · exact h.msg_fits
    · obtain ⟨c, hc, rfl⟩ := List.mem_map.mp hx
      exact h.buf_fits c hc
  have hsum := sum_le_of_apart hpair hfits
  have hle := cmdsSize_le m.cmdList
  have hcmd : 16 ≤ w.sizeofW1Cmd := by cases w <;> decide
  have hmul : m.nCmds * 16 ≤ m.maxCmds * w.sizeofW1Cmd := Nat.mul_le_mul hn hcmd
  simp only [List.map_cons, List.sum_cons, List.map_map, WordSize.getW1CmdsBufsz,
    sizeofW1Msg] at hsum
  have hlens : (m.cmdList.map (Prod.snd ∘ fun c => (c.pData, c.len))).sum =
      (m.cmdList.map W1Cmd.len).sum := rfl
  rw [W1Msg.cmdsSize]
  rw [W1Msg.length_cmdList] at hle
  omega

end Librasp
