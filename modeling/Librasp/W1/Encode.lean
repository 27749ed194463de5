import Librasp.W1.Message
import Librasp.W1.Netlink

/-!
# Encoding a w1 message

`w1_msg_exec` sums the sizes of the commands in a first pass and writes the commands into
`msg_buf` in a second one. `cmdsLen` and `fillMsgBuf` are the two passes: the first one in
`size_t` arithmetic, the second one on a buffer with a cursor that follows the length field just
written.

The passes agree on every well-formed message whose size is representable (`cmdsLen_eq`,
`fillMsgBuf_read`): the buffer then holds a w1 message header in front of `wireBytes` of each
command, and nothing behind them is touched (`fillMsgBuf_apply`).

* A round of the second pass moves the cursor by the length it has just stored, which is only 16
  bits wide. So it is a hypothesis of every round that the size of the command fits
  (`encodeCmd_spec`).
* A write with a pull-up is a round of its own: it has its time in front of the data, and its
  length field is written twice.

**Main results.** `fillMsgBuf_read` and `fillMsgBuf_apply`; `cmdsLen_eq_mod` has the first pass
without any condition, modulo the size of the address space.
-/

namespace Librasp

/-! ### The model -/

/-- `convert_cmd_type`. -/
def convertCmdType (cfg : Config) : W1CmdType → UInt8
  | .read => 0
  | .write => 1
  | .touch => 4
  | .busReset => 5
  | .writePullup => if cfg.writePullup then 20 else 0xff

/-- The size of `msg_buf`. -/
def sizeofMsgBuf : ℕ := maxW1NetlinkMsgSz - nlmsgSpace sizeofCnMsg

section Model

variable (cfg : Config) (mem : Mem UInt8)

/-- One round of the size pass. -/
def cmdsLenStep (cmdsLen : ℕ) (c : W1Cmd) : ℕ :=
  let cmdsLen := (cmdsLen + (sizeofW1NetlinkCmd + c.len)) % 2 ^ cfg.word.bits
  if cfg.writePullup ∧ c.type = .writePullup then (cmdsLen + 2) % 2 ^ cfg.word.bits else cmdsLen

/-- The size pass: `cmds_len`. -/
def cmdsLen (m : W1Msg) : ℕ := m.cmdList.foldl (cmdsLenStep cfg) 0

/-- `msg_len`. -/
def msgLen (m : W1Msg) : ℕ := (sizeofW1NetlinkMsg + cmdsLen cfg m) % 2 ^ cfg.word.bits

/-- The w1 message header, in a cleared buffer. -/
def fillW1msgHdr (m : W1Msg) (buf : Mem UInt8) : Mem UInt8 :=
  let buf := buf.write 0 (List.replicate (msgLen cfg m) 0)
  let buf := buf.write 2 (leBytes 2 (cmdsLen cfg m))
  match m.type with
  | .master => (buf.write 0 [w1MasterCmd]).write 4 (leBytes 4 m.mst.toNat)
  | .slave => (buf.write 0 [w1SlaveCmd]).write 4 (leBytes 8 m.slv.toNat)

/-- The command code and the length field, as they are set first. -/
def encodeHdr (p : ℕ) (c : W1Cmd) (buf : Mem UInt8) : Mem UInt8 :=
  (buf.write p [convertCmdType cfg c.type]).write (p + 2) (leBytes 2 c.len)

/-- The data behind a command header; `mem` is the caller's memory. -/
def encodeData (p : ℕ) (c : W1Cmd) (buf : Mem UInt8) : Mem UInt8 :=
  if cfg.writePullup ∧ c.type = .writePullup then
    let buf := buf.write (p + 4) (leBytes 2 c.pullup.toNat)
    let buf := if 0 < c.len then buf.write (p + 6) (mem.read c.pData c.len) else buf
    buf.write (p + 2) (leBytes 2 (w1CmdLenAt buf p + 2))
  else if (c.type = .write ∨ c.type = .touch) ∧ 0 < c.len then
    buf.write (p + 4) (mem.read c.pData c.len)
  else buf

/-- One round of the write pass, on the buffer and the cursor `p_w1cmd_nl`. -/
def encodeCmd (s : Mem UInt8 × ℕ) (c : W1Cmd) : Mem UInt8 × ℕ :=
  let buf := encodeData cfg mem s.2 c (encodeHdr cfg s.2 c s.1)
  (buf, s.2 + sizeofW1NetlinkCmd + w1CmdLenAt buf s.2)

/-- What `w1_msg_exec` makes of `msg_buf`. -/
def fillMsgBuf (m : W1Msg) (buf : Mem UInt8) : Mem UInt8 :=
  (m.cmdList.foldl (encodeCmd cfg mem) (fillW1msgHdr cfg m buf, sizeofW1NetlinkMsg)).1

end Model

/-! ### The bytes of a command -/

/-- The data a command is sent with. -/
def W1Cmd.wireData (mem : Mem UInt8) (c : W1Cmd) : List UInt8 :=
  match c.type with
  | .write | .touch => mem.read c.pData c.len
  | .read | .busReset => List.replicate c.len 0
  | .writePullup => leBytes 2 (c.pullup.toNat % 2 ^ 16) ++ mem.read c.pData c.len

/-- The bytes a command is sent as. -/
def W1Cmd.wireBytes (cfg : Config) (mem : Mem UInt8) (c : W1Cmd) : List UInt8 :=
  [convertCmdType cfg c.type, 0] ++ (leBytes 2 (c.wireData mem).length ++ c.wireData mem)

section Bytes

variable {cfg : Config} {mem : Mem UInt8} {c : W1Cmd}

theorem W1Cmd.size_eq (mem : Mem UInt8) (c : W1Cmd) : c.size = 4 + (c.wireData mem).length := by
  obtain ⟨type, len, pData, pullup⟩ := c
  cases type <;> simp [W1Cmd.size, W1Cmd.wireData]
  omega

@[simp]
theorem W1Cmd.length_wireBytes (cfg : Config) (mem : Mem UInt8) (c : W1Cmd) :
    (c.wireBytes cfg mem).length = c.size := by
  rw [c.size_eq mem, W1Cmd.wireBytes]
  simp
  omega

/-- A `uint16_t` that was written is what is read. -/
theorem toNat_u16At_of_read {m : Mem UInt8} {a n : ℕ} (h : m.read a 2 = leBytes 2 n)
    (hn : n < 65536) : (u16At m a).toNat = n := by
  rw [u16At, h, leVal_leBytes_of_lt hn]
  exact UInt16.toNat_ofNat_of_lt' hn

/-- A command in memory, put together from its fields. -/
private theorem read_cmd {buf : Mem UInt8} {p : ℕ} {code : UInt8} {data : List UInt8}
    (hcode : buf p = code) (hres : buf (p + 1) = 0)
    (hlen : buf.read (p + 2) 2 = leBytes 2 data.length)
    (hdata : buf.read (p + 4) data.length = data) :
    buf.read p (4 + data.length) = [code, 0] ++ (leBytes 2 data.length ++ data) := by
  have hhdr : buf.read p 2 = [code, 0] := by
    rw [Mem.read_succ, Mem.read_succ, Mem.read_zero, hcode, hres]
  rw [Mem.read_add, hdata, show 4 = 2 + 2 from rfl, Mem.read_add, hhdr, hlen, List.append_assoc]

private theorem encodeHdr_apply {buf : Mem UInt8} {p x : ℕ}
    (hx : x < p ∨ p + 4 ≤ x ∨ x = p + 1) : encodeHdr cfg p c buf x = buf x := by
  have hout : encodeHdr cfg p c buf x = (buf.write p [convertCmdType cfg c.type]) x := by
    rcases Nat.lt_or_ge x (p + 2) with h | h
    · exact Mem.write_of_lt _ _ h
    · exact Mem.write_of_ge _ (by simp; omega)
  rw [hout]
  rcases Nat.lt_or_ge x p with h | h
  · exact Mem.write_of_lt _ _ h
  · exact Mem.write_of_ge _ (by simp; omega)

private theorem encodeHdr_code (buf : Mem UInt8) (p : ℕ) :
    encodeHdr cfg p c buf p = convertCmdType cfg c.type := by
  have hout : encodeHdr cfg p c buf p = (buf.write p [convertCmdType cfg c.type]) p :=
    Mem.write_of_lt _ _ (by omega)
  rw [hout, Mem.write]
  simp

private theorem encodeHdr_len (buf : Mem UInt8) (p : ℕ) :
    (encodeHdr cfg p c buf).read (p + 2) 2 = leBytes 2 c.len := by
  have := Mem.read_write_self (buf.write p [convertCmdType cfg c.type]) (p + 2)
    (leBytes 2 c.len)
  rwa [length_leBytes] at this

/-- What one round of the write pass does: it moves the cursor by the size of the command,
leaves the bytes of the command behind, and touches nothing else. -/
structure EncodeSpec (cfg : Config) (mem : Mem UInt8) (bytes : List UInt8) (s r : Mem UInt8 × ℕ) :
    Prop where
  cursor : r.2 = s.2 + bytes.length
  read : r.1.read s.2 bytes.length = bytes
  frame : ∀ x, x < s.2 ∨ s.2 + bytes.length ≤ x → r.1 x = s.1 x

/-- A round is right when the header and the data are in place and nothing else was touched. -/
private theorem encodeSpec_of_stored {buf b : Mem UInt8} {p : ℕ}
    (hstep : encodeCmd cfg mem (buf, p) c = (b, p + 4 + (c.wireData mem).length))
    (hzero : buf (p + 1) = 0)
    (hhdr : ∀ x, x < p + 2 ∨ p + c.size ≤ x → b x = encodeHdr cfg p c buf x)
    (hlen : b.read (p + 2) 2 = leBytes 2 (c.wireData mem).length)
    (hdata : b.read (p + 4) (c.wireData mem).length = c.wireData mem) :
    EncodeSpec cfg mem (c.wireBytes cfg mem) (buf, p) (encodeCmd cfg mem (buf, p) c) := by
  have hsize := c.size_eq mem
  have hbytes : (c.wireBytes cfg mem).length = 4 + (c.wireData mem).length := by
    rw [W1Cmd.length_wireBytes, hsize]
  rw [hstep]
  refine ⟨by dsimp only; omega, ?_, fun x hx => ?_⟩
  · rw [hbytes]
    dsimp only
    refine read_cmd ?_ ?_ hlen hdata
    · rw [hhdr _ (by omega), encodeHdr_code]
    · rw [hhdr _ (by omega), encodeHdr_apply (by omega), hzero]
  · dsimp only at hx ⊢
    rw [hhdr x (by omega), encodeHdr_apply (by omega)]

/-- The pull-up round. The time of the pull-up is written in front of the data, so the length
field is written once more, and the cursor follows the second value. -/
private theorem encodeCmd_spec_pullup {buf : Mem UInt8} {p : ℕ} (hcfg : cfg.writePullup = true)
    (ht : c.type = .writePullup) (hlen : c.len + 2 < 65536)
    (hzero : ∀ x, p ≤ x → x < p + c.size → buf x = 0) :
    EncodeSpec cfg mem (c.wireBytes cfg mem) (buf, p) (encodeCmd cfg mem (buf, p) c) := by
  have hsize : c.size = 6 + c.len := by
    rw [W1Cmd.size, if_pos ht]
    omega
  have hdata : c.wireData mem = leBytes 2 c.pullup.toNat ++ mem.read c.pData c.len := by
    simp only [W1Cmd.wireData, ht]
    rw [show 2 ^ 16 = 256 ^ 2 from rfl, leBytes_mod]
  -- the buffer before the length is stored again with the two bytes of the pull-up
  obtain ⟨b₁, hb₁⟩ : ∃ b₁, b₁ = ((encodeHdr cfg p c buf).write (p + 4)
      (leBytes 2 c.pullup.toNat)).write (p + 6) (mem.read c.pData c.len) := ⟨_, rfl⟩
  have hb₁lt : ∀ x, x < p + 4 → b₁ x = encodeHdr cfg p c buf x := fun x hx => by
    rw [hb₁, Mem.write_of_lt _ _ (by omega), Mem.write_of_lt _ _ hx]
  have hb₁ge : ∀ x, p + c.size ≤ x → b₁ x = encodeHdr cfg p c buf x := fun x hx => by
    rw [hb₁, Mem.write_of_ge _ (by simp; omega), Mem.write_of_ge _ (by simp; omega)]
  have hlen₁ : w1CmdLenAt b₁ p = c.len := by
    refine toNat_u16At_of_read ?_ (by omega)
    rw [Mem.read_congr fun x _ hx' => hb₁lt x (by omega), encodeHdr_len]
  have hdata₁ : b₁.read (p + 4) (c.wireData mem).length = c.wireData mem := by
    have happ := Mem.read_write_append ((encodeHdr cfg p c buf).write (p + 4)
      (leBytes 2 c.pullup.toNat)) (p + 4) 2 (mem.read c.pData c.len)
    have hself := Mem.read_write_self (encodeHdr cfg p c buf) (p + 4) (leBytes 2 c.pullup.toNat)
    rw [length_leBytes] at hself
    rw [hself, Mem.length_read] at happ
    rw [hdata, List.length_append, length_leBytes, Mem.length_read, hb₁]
    exact happ
  have hstep : encodeCmd cfg mem (buf, p) c =
      (b₁.write (p + 2) (leBytes 2 (c.len + 2)), p + 4 + (c.len + 2)) := by
    -- copying no bytes is the same as not copying
    have hif : (if 0 < c.len then ((encodeHdr cfg p c buf).write (p + 4)
        (leBytes 2 c.pullup.toNat)).write (p + 6) (mem.read c.pData c.len)
        else (encodeHdr cfg p c buf).write (p + 4) (leBytes 2 c.pullup.toNat)) = b₁ := by
      rcases Nat.eq_zero_or_pos c.len with h0 | h0
      · rw [hb₁, h0, Mem.read_zero, Mem.write_nil]
        rfl
      · rw [if_pos h0, hb₁]
    have hstore : encodeData cfg mem p c (encodeHdr cfg p c buf) =
        b₁.write (p + 2) (leBytes 2 (c.len + 2)) := by
      rw [encodeData, if_pos ⟨hcfg, ht⟩]
      dsimp only
      rw [hif, hlen₁]
    have hlen₂ : w1CmdLenAt (b₁.write (p + 2) (leBytes 2 (c.len + 2))) p = c.len + 2 := by
      refine toNat_u16At_of_read ?_ hlen
      have := Mem.read_write_self b₁ (p + 2) (leBytes 2 (c.len + 2))
      rwa [length_leBytes] at this
    simp only [encodeCmd, hstore, hlen₂, sizeofW1NetlinkCmd]
  have hlenData : (c.wireData mem).length = c.len + 2 := by
    rw [hdata]
    simp
    omega
  refine encodeSpec_of_stored (hlenData ▸ hstep) (hzero _ (by omega) (by omega))
    (fun x hx => ?_) ?_ ?_
  · rcases hx with hx | hx
    · rw [Mem.write_of_lt _ _ hx, hb₁lt _ (by omega)]
    · rw [Mem.write_of_ge _ (by simp; omega), hb₁ge _ hx]
  · have := Mem.read_write_self b₁ (p + 2) (leBytes 2 (c.len + 2))
    rw [hlenData]
    rwa [length_leBytes] at this
  · rw [Mem.read_write_of_disjoint _ (by simp), hdata₁]

/-- The rounds of all the other commands: the code, the length, and behind the header the data,
which are the caller's bytes of a write and ones for what a touch reads. -/
private theorem encodeCmd_spec_plain {buf : Mem UInt8} {p : ℕ} (ht : c.type ≠ .writePullup)
    (hlen : c.len < 65536) (hzero : ∀ x, p ≤ x → x < p + c.size → buf x = 0) :
    EncodeSpec cfg mem (c.wireBytes cfg mem) (buf, p) (encodeCmd cfg mem (buf, p) c) := by
  have hsize : c.size = 4 + c.len := by rw [W1Cmd.size, if_neg ht, Nat.add_zero]
  have hlenData : (c.wireData mem).length = c.len := by
    have := c.size_eq mem
    omega
  obtain ⟨b₁, hb₁⟩ : ∃ b₁, b₁ = if (c.type = .write ∨ c.type = .touch) ∧ 0 < c.len then
      (encodeHdr cfg p c buf).write (p + 4) (mem.read c.pData c.len) else encodeHdr cfg p c buf :=
    ⟨_, rfl⟩
  have hout : ∀ x, x < p + 4 ∨ p + c.size ≤ x → b₁ x = encodeHdr cfg p c buf x := fun x hx => by
    rw [hb₁]
    split
    · rcases hx with hx | hx
      · exact Mem.write_of_lt _ _ hx
      · exact Mem.write_of_ge _ (by simp; omega)
    · rfl
  have hdata₁ : b₁.read (p + 4) (c.wireData mem).length = c.wireData mem := by
    rw [hlenData, hb₁]
    by_cases hw : c.type = .write ∨ c.type = .touch
    · have hwire : c.wireData mem = mem.read c.pData c.len := by
        rcases hw with hw | hw <;> simp only [W1Cmd.wireData, hw]
      rcases Nat.eq_zero_or_pos c.len with h0 | h0
      · rw [hwire, h0, Mem.read_zero, Mem.read_zero]
      · have := Mem.read_write_self (encodeHdr cfg p c buf) (p + 4) (mem.read c.pData c.len)
        rw [if_pos ⟨hw, h0⟩, hwire]
        rwa [Mem.length_read] at this
    · -- no data is written for these, so the cleared buffer shows
      have hwire : c.wireData mem = List.replicate c.len 0 := by
        rcases htype : c.type with _ | _ | _ | _ | _ <;> simp_all [W1Cmd.wireData]
      rw [if_neg (by tauto), hwire]
      refine List.ext_getElem (by simp) fun i h₁ h₂ => ?_
      have hi : i < c.len := by simpa using h₁
      rw [Mem.getElem_read, List.getElem_replicate, encodeHdr_apply (by omega)]
      exact hzero _ (by omega) (by omega)
  -- the length read back to move the cursor is the one the header stored
  have hlen₁ : w1CmdLenAt b₁ p = c.len := by
    refine toNat_u16At_of_read ?_ hlen
    rw [Mem.read_congr fun x _ hx' => hout x (by omega), encodeHdr_len]
  have hstep : encodeCmd cfg mem (buf, p) c = (b₁, p + 4 + c.len) := by
    have hstore : encodeData cfg mem p c (encodeHdr cfg p c buf) = b₁ := by
      rw [encodeData, if_neg (fun h => ht h.2), hb₁]
    simp only [encodeCmd, hstore, hlen₁, sizeofW1NetlinkCmd]
  refine encodeSpec_of_stored (hlenData.symm ▸ hstep) (hzero _ (by omega) (by omega))
    (fun x hx => hout x (by omega)) ?_ hdata₁
  rw [hlenData, Mem.read_congr fun x _ hx' => hout x (by omega), encodeHdr_len]

/-- **One round of the write pass.** The bytes of the command are behind the cursor then, the
cursor is behind them, and nothing else is touched. -/
theorem encodeCmd_spec (mem : Mem UInt8) {s : Mem UInt8 × ℕ}
    (hpullup : c.type = .writePullup → cfg.writePullup = true) (hsize : c.size < 65536)
    (hzero : ∀ x, s.2 ≤ x → x < s.2 + c.size → s.1 x = 0) :
    EncodeSpec cfg mem (c.wireBytes cfg mem) s (encodeCmd cfg mem s c) := by
  by_cases ht : c.type = .writePullup
  · refine encodeCmd_spec_pullup (hpullup ht) ht ?_ hzero
    rw [W1Cmd.size, if_pos ht] at hsize
    omega
  · refine encodeCmd_spec_plain ht ?_ hzero
    rw [W1Cmd.size, if_neg ht] at hsize
    omega

/-- **The write pass** over a list of commands. The induction is on the list, with the cursor at
what was written so far. -/
theorem foldl_encodeCmd_spec {cmds : List W1Cmd} {s : Mem UInt8 × ℕ}
    (hpullup : ∀ c ∈ cmds, c.type = .writePullup → cfg.writePullup = true)
    (hsize : (cmds.map W1Cmd.size).sum < 65536)
    (hzero : ∀ x, s.2 ≤ x → x < s.2 + (cmds.map W1Cmd.size).sum → s.1 x = 0) :
    EncodeSpec cfg mem (cmds.flatMap (W1Cmd.wireBytes cfg mem)) s
      (cmds.foldl (encodeCmd cfg mem) s) := by
  induction cmds generalizing s with
  | nil => exact ⟨rfl, rfl, fun _ _ => rfl⟩
  | cons c cmds ih =>
    rw [List.map_cons, List.sum_cons] at hsize hzero
    have hfirst := encodeCmd_spec mem (s := s) (hpullup c List.mem_cons_self)
      (by omega) fun x hx hx' => hzero x hx (by omega)
    have hcur := hfirst.cursor
    rw [W1Cmd.length_wireBytes] at hcur
    have hrest := ih (fun d hd => hpullup d (List.mem_cons_of_mem _ hd)) (by omega)
      (s := encodeCmd cfg mem s c) fun x hx hx' => by
        rw [hfirst.frame x (by rw [W1Cmd.length_wireBytes]; omega)]
        exact hzero x (by omega) (by omega)
    have hcur' := hrest.cursor
    rw [List.foldl_cons, List.flatMap_cons]
    refine ⟨?_, ?_, fun x hx => ?_⟩
    · rw [hcur', hcur, List.length_append, W1Cmd.length_wireBytes, Nat.add_assoc]
    · rw [List.length_append, Mem.read_add]
      congr 1
      · refine (Mem.read_congr fun x _ hx' => hrest.frame x (.inl ?_)).trans hfirst.read
        rwa [hfirst.cursor]
      · have := hrest.read
        rwa [hfirst.cursor] at this
    · rw [List.length_append] at hx
      rw [hrest.frame x (by rw [hfirst.cursor]; omega), hfirst.frame x (by omega)]

end Bytes

/-! ### The whole message -/

/-- The type a message is sent with. -/
def W1Msg.wireType (m : W1Msg) : UInt8 :=
  match m.type with
  | .master => w1MasterCmd
  | .slave => w1SlaveCmd

/-- The `id` union a message is sent with. -/
def W1Msg.wireId (m : W1Msg) : UInt64 :=
  match m.type with
  | .master => m.mst.toUInt64
  | .slave => m.slv

/-- The commands a message is sent with. -/
def W1Msg.wireCmds (cfg : Config) (mem : Mem UInt8) (m : W1Msg) : List UInt8 :=
  m.cmdList.flatMap (W1Cmd.wireBytes cfg mem)

section Message

variable {cfg : Config} {m : W1Msg}

theorem W1Msg.length_wireCmds (cfg : Config) (mem : Mem UInt8) (m : W1Msg) :
    (m.wireCmds cfg mem).length = m.cmdsSize := by
  rw [W1Msg.wireCmds, List.length_flatMap, W1Msg.cmdsSize]
  simp only [W1Cmd.length_wireBytes]

/-- The size pass computes the size of the commands modulo the size of the address space: each
addition is one of `size_t`, and so is the sum. -/
theorem cmdsLen_eq_mod (hm : m.WellFormed cfg) :
    cmdsLen cfg m = m.cmdsSize % 2 ^ cfg.word.bits := by
  have hfold : ∀ (cmds : List W1Cmd) (n : ℕ),
      (∀ c ∈ cmds, c.type = .writePullup → cfg.writePullup = true) →
      n < 2 ^ cfg.word.bits →
      cmds.foldl (cmdsLenStep cfg) n =
        (n + (cmds.map W1Cmd.size).sum) % 2 ^ cfg.word.bits := by
    intro cmds
    induction cmds with
    | nil => exact fun n _ hn => (Nat.mod_eq_of_lt hn).symm
    | cons c cmds ih =>
      intro n hpullup hn
      have hstep : cmdsLenStep cfg n c = (n + c.size) % 2 ^ cfg.word.bits := by
        simp only [cmdsLenStep, W1Cmd.size, sizeofW1NetlinkCmd]
        by_cases ht : c.type = .writePullup
        · rw [if_pos ⟨hpullup c List.mem_cons_self ht, ht⟩, if_pos ht, Nat.mod_add_mod,
            Nat.add_assoc]
        · rw [if_neg (fun h => ht h.2), if_neg ht, Nat.add_zero]
      rw [List.foldl_cons, hstep, ih _ (fun d hd => hpullup d (List.mem_cons_of_mem _ hd))
        (Nat.mod_lt _ (Nat.two_pow_pos _)), Nat.mod_add_mod, List.map_cons, List.sum_cons,
        Nat.add_assoc]
  rw [cmdsLen, hfold _ _ (fun c hc => (hm.cmd c hc).writePullup) (Nat.two_pow_pos _),
    Nat.zero_add, W1Msg.cmdsSize]

/-- The size pass computes the size of the commands unless the sum wraps around. -/
theorem cmdsLen_eq (hm : m.WellFormed cfg) (hsize : m.cmdsSize < 2 ^ cfg.word.bits) :
    cmdsLen cfg m = m.cmdsSize := by
  rw [cmdsLen_eq_mod hm, Nat.mod_eq_of_lt hsize]

/-- `msg_len` is the size of the message modulo the size of the address space. -/
theorem msgLen_eq_mod (hm : m.WellFormed cfg) :
    msgLen cfg m = (sizeofW1NetlinkMsg + m.cmdsSize) % 2 ^ cfg.word.bits := by
  rw [msgLen, cmdsLen_eq_mod hm, Nat.add_mod_mod]

theorem msgLen_eq (hm : m.WellFormed cfg)
    (hsize : sizeofW1NetlinkMsg + m.cmdsSize < 2 ^ cfg.word.bits) :
    msgLen cfg m = sizeofW1NetlinkMsg + m.cmdsSize := by
  rw [msgLen_eq_mod hm, Nat.mod_eq_of_lt hsize]

/-- The header ends at the first command. -/
private theorem fillW1msgHdr_apply {buf : Mem UInt8} {x : ℕ} (hx : 12 ≤ x) :
    fillW1msgHdr cfg m buf x = buf.write 0 (List.replicate (msgLen cfg m) 0) x := by
  rw [fillW1msgHdr]
  cases m.type with
  | master =>
    dsimp only
    rw [Mem.write_of_ge _ (by simp; omega), Mem.write_of_ge _ (by simp; omega),
      Mem.write_of_ge _ (by simp; omega)]
  | slave =>
    dsimp only
    rw [Mem.write_of_ge _ (by simp; omega), Mem.write_of_ge _ (by simp; omega),
      Mem.write_of_ge _ (by simp; omega)]

/-- The cleared buffer. -/
private theorem clear_apply (buf : Mem UInt8) {x n : ℕ} (h : x < n) :
    buf.write 0 (List.replicate n 0) x = 0 := by
  rw [Mem.write, if_neg (Nat.not_lt_zero x), Nat.sub_zero,
    List.getD_eq_getElem _ _ (by simpa using h), List.getElem_replicate]

/-- The header of a message. -/
def W1Msg.wireHdr (m : W1Msg) : List UInt8 :=
  [m.wireType, 0] ++ (leBytes 2 m.cmdsSize ++ leBytes 8 m.wireId.toNat)

/-- A 32-bit id in the `id` union is a 64-bit one with zeros above. -/
private theorem leBytes_eight_of_lt {n : ℕ} (h : n < 2 ^ 32) :
    leBytes 8 n = leBytes 4 n ++ [0, 0, 0, 0] := by
  refine leVal_inj (by simp) ?_
  rw [leVal_leBytes_of_lt (by omega)]
  have hdiv : n / 256 / 256 / 256 / 256 = 0 := by omega
  simp only [leBytes, leVal, List.cons_append, List.nil_append, UInt8.toNat_ofNat']
  simp
  omega

/-- A header in memory, put together from the writes of its fields: the type, the length, and the
id with zeros behind it. -/
private theorem hdr_read {b : Mem UInt8} (hclear : ∀ x, x < 12 → b x = 0) (type : UInt8)
    {len id : List UInt8} (hlen : len.length = 2) (hid : id.length ≤ 8) :
    (((b.write 2 len).write 0 [type]).write 4 id).read 0 12 =
      [type, 0] ++ (len ++ (id ++ List.replicate (8 - id.length) 0)) := by
  have htype : ((b.write 2 len).write 0 [type]).read 0 1 = [type] :=
    Mem.read_write_self _ 0 [type]
  -- the status is written by nobody: the cleared buffer shows
  have hstatus : ((b.write 2 len).write 0 [type]).read 1 1 = [0] := by
    rw [Mem.read_write_of_disjoint _ (by simp), Mem.read_write_of_disjoint _ (by simp),
      Mem.read_succ, hclear 1 (by omega), Mem.read_zero]
  have hlen₂ : ((b.write 2 len).write 0 [type]).read 2 2 = len := by
    have := Mem.read_write_self b 2 len
    rw [hlen] at this
    rw [Mem.read_write_of_disjoint _ (by simp), this]
  have hid₁ : (((b.write 2 len).write 0 [type]).write 4 id).read 4 id.length = id :=
    Mem.read_write_self _ _ _
  have hid₂ : (((b.write 2 len).write 0 [type]).write 4 id).read (4 + id.length)
      (8 - id.length) = List.replicate (8 - id.length) 0 := by
    refine List.ext_getElem (by simp) fun i h₁ h₂ => ?_
    have hi : i < 8 - id.length := by simpa using h₁
    rw [Mem.getElem_read, List.getElem_replicate, Mem.write_of_ge _ (by omega),
      Mem.write_of_ge _ (by simp; omega), Mem.write_of_ge _ (by omega), hclear _ (by omega)]
  have h12 : 12 = 1 + 1 + 2 + (id.length + (8 - id.length)) := by omega
  rw [h12, Mem.read_add, Mem.read_write_of_disjoint _ (by simp), Mem.read_add, Mem.read_add,
    htype, hstatus, hlen₂, Mem.read_add, hid₁, hid₂]
  simp

/-- The header of a message, as it is in the buffer before the commands are written. Its length
field is that of the commands, which fit. -/
private theorem fillW1msgHdr_read (hm : m.WellFormed cfg)
    (hsize : sizeofW1NetlinkMsg + m.cmdsSize < 2 ^ cfg.word.bits) (buf : Mem UInt8) :
    (fillW1msgHdr cfg m buf).read 0 sizeofW1NetlinkMsg = m.wireHdr := by
  have hlen := msgLen_eq hm hsize
  have h12 : sizeofW1NetlinkMsg = 12 := rfl
  have hclear : ∀ x, x < 12 → buf.write 0 (List.replicate (msgLen cfg m) 0) x = 0 := fun x hx =>
    clear_apply buf (by omega)
  have hcmds : cmdsLen cfg m = m.cmdsSize := cmdsLen_eq hm (by omega)
  have hread := fun (type : UInt8) (id : List UInt8) (hid : id.length ≤ 8) =>
    hdr_read hclear type (length_leBytes 2 m.cmdsSize) hid
  rw [fillW1msgHdr, h12, hcmds, W1Msg.wireHdr, W1Msg.wireType, W1Msg.wireId]
  cases m.type with
  | master =>
    dsimp only
    rw [hread _ _ (by simp), UInt32.toNat_toUInt64, leBytes_eight_of_lt m.mst.toNat_lt,
      length_leBytes]
    rfl
  | slave =>
    dsimp only
    rw [hread _ _ (by simp), length_leBytes]
    simp

/-- A message that fits `msg_buf` is of a size that can be represented. -/
theorem msgLen_eq_of_le (hm : m.WellFormed cfg)
    (hsize : sizeofW1NetlinkMsg + m.cmdsSize ≤ sizeofMsgBuf) :
    msgLen cfg m = sizeofW1NetlinkMsg + m.cmdsSize := by
  have hbits := cfg.word.two_pow_bits_ge
  have hbuf : sizeofMsgBuf < 2 ^ 32 := by decide
  exact msgLen_eq hm (by omega)

/-- The room of the commands is cleared before they are written. -/
theorem fillW1msgHdr_zero (hm : m.WellFormed cfg)
    (hsize : sizeofW1NetlinkMsg + m.cmdsSize ≤ sizeofMsgBuf) (buf : Mem UInt8) {x : ℕ}
    (hx : sizeofW1NetlinkMsg ≤ x) (hlt : x < sizeofW1NetlinkMsg + m.cmdsSize) :
    fillW1msgHdr cfg m buf x = 0 := by
  rw [fillW1msgHdr_apply hx, clear_apply]
  rwa [msgLen_eq_of_le hm hsize]

/-- The write pass over the commands of a message. -/
private theorem fillMsgBuf_spec (hm : m.WellFormed cfg) (mem buf : Mem UInt8)
    (hsize : sizeofW1NetlinkMsg + m.cmdsSize ≤ sizeofMsgBuf) :
    EncodeSpec cfg mem (m.wireCmds cfg mem) (fillW1msgHdr cfg m buf, sizeofW1NetlinkMsg)
      (m.cmdList.foldl (encodeCmd cfg mem) (fillW1msgHdr cfg m buf, sizeofW1NetlinkMsg)) := by
  have hbuf : sizeofMsgBuf = 4076 := rfl
  refine foldl_encodeCmd_spec (fun c hc => (hm.cmd c hc).writePullup) ?_
    fun x hx hlt => fillW1msgHdr_zero hm hsize buf hx hlt
  rw [← W1Msg.cmdsSize]
  omega

/-- **What `msg_buf` holds**: the header and the commands of the message, one behind the other, if
the message fits. -/
theorem fillMsgBuf_read (hm : m.WellFormed cfg) (mem buf : Mem UInt8)
    (hsize : sizeofW1NetlinkMsg + m.cmdsSize ≤ sizeofMsgBuf) :
    (fillMsgBuf cfg mem m buf).read 0 (sizeofW1NetlinkMsg + m.cmdsSize) =
      m.wireHdr ++ m.wireCmds cfg mem := by
  have hspec := fillMsgBuf_spec hm mem buf hsize
  have hbits := cfg.word.two_pow_bits_ge
  have hbuf : sizeofMsgBuf < 2 ^ 32 := by decide
  have hhdr : (fillMsgBuf cfg mem m buf).read 0 sizeofW1NetlinkMsg = m.wireHdr := by
    rw [← fillW1msgHdr_read hm (by omega) buf]
    exact Mem.read_congr fun x _ hx => hspec.frame x (.inl (by simpa using hx))
  have hcmds := hspec.read
  rw [W1Msg.length_wireCmds] at hcmds
  rw [Mem.read_add, hhdr, Nat.zero_add]
  exact congrArg (m.wireHdr ++ ·) hcmds

/-- Nothing behind the message is touched. -/
theorem fillMsgBuf_apply (hm : m.WellFormed cfg) (mem buf : Mem UInt8)
    (hsize : sizeofW1NetlinkMsg + m.cmdsSize ≤ sizeofMsgBuf) {x : ℕ}
    (hx : sizeofW1NetlinkMsg + m.cmdsSize ≤ x) : fillMsgBuf cfg mem m buf x = buf x := by
  have hspec := fillMsgBuf_spec hm mem buf hsize
  have h12 : sizeofW1NetlinkMsg = 12 := rfl
  have hframe := hspec.frame x (.inr (by rw [W1Msg.length_wireCmds]; exact hx))
  refine hframe.trans ?_
  dsimp only
  rw [fillW1msgHdr_apply (by omega), Mem.write_of_ge]
  rw [List.length_replicate, msgLen_eq_of_le hm hsize]
  omega

end Message

end Librasp
