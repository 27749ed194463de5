import Librasp.Common
import Librasp.Foundation.Chain
import Librasp.Foundation.LittleEndian
import Librasp.Foundation.Memory

/-!
# The netlink framing of the w1 subsystem

A datagram is a chain of netlink messages, their payloads are a chain of connector messages, the
data of a connector message is a chain of w1 messages, and the data of a w1 message is a chain of
w1 commands. This file gives the four records (`struct nlmsghdr`, `struct cn_msg`, `struct
w1_netlink_msg`, `struct w1_netlink_cmd`), reads them from a memory at an address the way the C
code does through a cast pointer (`nlmsghdrAt` and the like), and lays them out as bytes
(`toBytes`).

The host byte order is little-endian. A record with trailing data carries the bound its 16-bit
length field imposes, so a record that could not be framed cannot be built.

* For each record there is a lemma that it reads back from its bytes, wherever these lie in a
  longer string (`w1MsgAt_of_drop`, `w1CmdAt_of_drop`).
* The parsers of the three inner chains are record parsers of `Chain`, and recognise what
  `toBytes` lays out (`cnParser_recognises` and the others). The netlink layer has its own loop,
  for its messages say whether more are to come.
-/

namespace Librasp

/-! ### Fields in memory -/

/-- A `uint16_t` in memory. -/
def u16At (m : Mem UInt8) (a : ℕ) : UInt16 := .ofNat (leVal (m.read a 2))

/-- A `uint32_t` in memory. -/
def u32At (m : Mem UInt8) (a : ℕ) : UInt32 := .ofNat (leVal (m.read a 4))

/-- A `uint64_t` in memory. -/
def u64At (m : Mem UInt8) (a : ℕ) : UInt64 := .ofNat (leVal (m.read a 8))

/-- A byte string as memory; what lies behind it does not matter. -/
abbrev ofBytes (bs : List UInt8) : Mem UInt8 := Mem.ofList 0 bs

section Fields

variable {bs rest : List UInt8} {a k n : ℕ}

theorem read_of_drop {cs : List UInt8} (h : bs.drop a = cs ++ rest) (hk : cs.length = k) :
    (ofBytes bs).read a k = cs := by
  rcases Nat.lt_or_ge bs.length (a + k) with hlt | hge
  · have hlen := congrArg List.length h
    rw [List.length_drop, List.length_append] at hlen
    obtain rfl : k = 0 := by omega
    rw [Mem.read_zero, List.eq_nil_of_length_eq_zero hk]
  · rw [Mem.read_ofList _ hge, h, List.take_left' hk]

theorem ofBytes_of_drop {b : UInt8} (h : bs.drop a = b :: rest) : ofBytes bs a = b := by
  have hget : bs[a]? = some b := by rw [← List.head?_drop, h, List.head?_cons]
  rw [ofBytes, Mem.ofList, List.getD_eq_getElem?_getD, hget, Option.getD_some]

/-- A field that stands at offset `a` of a byte string is what is read there. -/
theorem leVal_read_of_drop (h : bs.drop a = leBytes k n ++ rest) (hn : n < 256 ^ k) :
    leVal ((ofBytes bs).read a k) = n := by
  rw [read_of_drop h (length_leBytes ..), leVal_leBytes_of_lt hn]

theorem u16At_of_drop {x : UInt16} (h : bs.drop a = leBytes 2 x.toNat ++ rest) :
    u16At (ofBytes bs) a = x := by
  rw [u16At, leVal_read_of_drop h x.toNat_lt, UInt16.ofNat_toNat]

theorem u32At_of_drop {x : UInt32} (h : bs.drop a = leBytes 4 x.toNat ++ rest) :
    u32At (ofBytes bs) a = x := by
  rw [u32At, leVal_read_of_drop h x.toNat_lt, UInt32.ofNat_toNat]

theorem u64At_of_drop {x : UInt64} (h : bs.drop a = leBytes 8 x.toNat ++ rest) :
    u64At (ofBytes bs) a = x := by
  rw [u64At, leVal_read_of_drop h x.toNat_lt, UInt64.ofNat_toNat]

/-- A 16-bit length field. -/
theorem toNat_u16At_of_drop (h : bs.drop a = leBytes 2 n ++ rest) (hn : n < 65536) :
    (u16At (ofBytes bs) a).toNat = n := by
  rw [u16At, leVal_read_of_drop h hn, UInt16.toNat_ofNat_of_lt' hn]

/-! The same fields of a record that was first copied out of a larger memory. -/

variable {m : Mem UInt8} {p l : ℕ}

theorem u16At_ofBytes_read (h : a + 2 ≤ l) :
    u16At (ofBytes (m.read p l)) a = u16At m (p + a) := by
  rw [u16At, u16At, Mem.read_ofList_read 0 m h]

theorem u32At_ofBytes_read (h : a + 4 ≤ l) :
    u32At (ofBytes (m.read p l)) a = u32At m (p + a) := by
  rw [u32At, u32At, Mem.read_ofList_read 0 m h]

theorem u64At_ofBytes_read (h : a + 8 ≤ l) :
    u64At (ofBytes (m.read p l)) a = u64At m (p + a) := by
  rw [u64At, u64At, Mem.read_ofList_read 0 m h]

end Fields

/-! ### Netlink messages -/

/-- `NLMSG_HDRLEN`. -/
def nlmsgHdrlen : ℕ := 16

/-- `NLMSG_ALIGN`: round up to a multiple of four. -/
def nlmsgAlign (len : ℕ) : ℕ := (len + 3) / 4 * 4

/-- `NLMSG_LENGTH`. -/
def nlmsgLength (len : ℕ) : ℕ := len + nlmsgHdrlen

/-- `NLMSG_SPACE`. -/
def nlmsgSpace (len : ℕ) : ℕ := nlmsgAlign (nlmsgLength len)

/-- `MAX_W1_NETLINK_MSG_SZ`: the size of the send and the receive buffer. -/
def maxW1NetlinkMsgSz : ℕ := 0x1000 + nlmsgHdrlen

/-- `NLMSG_NOOP`. -/
def nlmsgNoop : UInt16 := 1

/-- `NLMSG_ERROR`. -/
def nlmsgError : UInt16 := 2

/-- `NLMSG_DONE`. -/
def nlmsgDone : UInt16 := 3

/-- `NLM_F_MULTI`. -/
def nlmFMulti : UInt16 := 2

/-- `struct nlmsghdr`. -/
structure Nlmsghdr where
  nlmsgLen : UInt32
  nlmsgType : UInt16
  nlmsgFlags : UInt16
  nlmsgSeq : UInt32
  nlmsgPid : UInt32
  deriving DecidableEq, Repr

/-- The netlink header at an address. -/
def nlmsghdrAt (m : Mem UInt8) (p : ℕ) : Nlmsghdr where
  nlmsgLen := u32At m p
  nlmsgType := u16At m (p + 4)
  nlmsgFlags := u16At m (p + 6)
  nlmsgSeq := u32At m (p + 8)
  nlmsgPid := u32At m (p + 12)

/-- A netlink header as bytes. -/
def Nlmsghdr.toBytes (h : Nlmsghdr) : List UInt8 :=
  leBytes 4 h.nlmsgLen.toNat ++ (leBytes 2 h.nlmsgType.toNat ++
    (leBytes 2 h.nlmsgFlags.toNat ++ (leBytes 4 h.nlmsgSeq.toNat ++
      leBytes 4 h.nlmsgPid.toNat)))

@[simp]
theorem Nlmsghdr.length_toBytes (h : Nlmsghdr) : h.toBytes.length = nlmsgHdrlen := by
  simp [Nlmsghdr.toBytes, nlmsgHdrlen]

/-- A netlink header reads back from its bytes. -/
theorem nlmsghdrAt_toBytes (h : Nlmsghdr) (rest : List UInt8) :
    nlmsghdrAt (ofBytes (h.toBytes ++ rest)) 0 = h := by
  obtain ⟨len, type, flags, seq, pid⟩ := h
  simp only [nlmsghdrAt, Nlmsghdr.mk.injEq, Nlmsghdr.toBytes, List.append_assoc]
  exact ⟨u32At_of_drop rfl, u16At_of_drop rfl, u16At_of_drop rfl, u32At_of_drop rfl,
    u32At_of_drop rfl⟩

theorem nlmsghdrAt_ofBytes_read {m : Mem UInt8} {p l : ℕ} (h : nlmsgHdrlen ≤ l) :
    nlmsghdrAt (ofBytes (m.read p l)) 0 = nlmsghdrAt m p := by
  rw [nlmsgHdrlen] at h
  simp only [nlmsghdrAt, Nat.zero_add]
  rw [u32At_ofBytes_read (by omega), u16At_ofBytes_read (by omega),
    u16At_ofBytes_read (by omega), u32At_ofBytes_read (by omega),
    u32At_ofBytes_read (by omega), Nat.add_zero]

theorem le_nlmsgAlign (len : ℕ) : len ≤ nlmsgAlign len := by
  rw [nlmsgAlign]
  omega

theorem nlmsgAlign_lt (len : ℕ) : nlmsgAlign len < len + 4 := by
  rw [nlmsgAlign]
  omega

/-! ### Connector messages -/

/-- `CN_W1_IDX`. -/
def cnW1Idx : UInt32 := 3

/-- `CN_W1_VAL`. -/
def cnW1Val : UInt32 := 1

/-- `sizeof(struct cn_msg)`. -/
def sizeofCnMsg : ℕ := 20

/-- The header of a `struct cn_msg`. -/
structure CnMsgHdr where
  idx : UInt32
  val : UInt32
  seq : UInt32
  ack : UInt32
  len : UInt16
  flags : UInt16
  deriving DecidableEq, Repr

/-- The connector header at an address. -/
def cnMsgHdrAt (m : Mem UInt8) (p : ℕ) : CnMsgHdr where
  idx := u32At m p
  val := u32At m (p + 4)
  seq := u32At m (p + 8)
  ack := u32At m (p + 12)
  len := u16At m (p + 16)
  flags := u16At m (p + 18)

/-- A `struct cn_msg` with its data. -/
structure CnMsg where
  idx : UInt32
  val : UInt32
  seq : UInt32
  ack : UInt32
  flags : UInt16
  data : List UInt8
  data_lt : data.length < 65536
  deriving DecidableEq

namespace CnMsg

/-- The header that frames a connector message. -/
def hdr (c : CnMsg) : CnMsgHdr :=
  ⟨c.idx, c.val, c.seq, c.ack, .ofNat c.data.length, c.flags⟩

@[simp]
theorem toNat_hdr_len (c : CnMsg) : c.hdr.len.toNat = c.data.length :=
  UInt16.toNat_ofNat_of_lt' c.data_lt

/-- A connector message as bytes. -/
def toBytes (c : CnMsg) : List UInt8 :=
  leBytes 4 c.idx.toNat ++ (leBytes 4 c.val.toNat ++ (leBytes 4 c.seq.toNat ++
    (leBytes 4 c.ack.toNat ++ (leBytes 2 c.hdr.len.toNat ++
      (leBytes 2 c.flags.toNat ++ c.data)))))

@[simp]
theorem length_toBytes (c : CnMsg) : c.toBytes.length = sizeofCnMsg + c.data.length := by
  simp [toBytes, sizeofCnMsg]
  omega

/-- A connector header reads back from the bytes of its message. -/
theorem cnMsgHdrAt_toBytes (c : CnMsg) (rest : List UInt8) :
    cnMsgHdrAt (ofBytes (c.toBytes ++ rest)) 0 = c.hdr := by
  simp only [cnMsgHdrAt, hdr, CnMsgHdr.mk.injEq, toBytes, List.append_assoc]
  exact ⟨u32At_of_drop rfl, u32At_of_drop rfl, u32At_of_drop rfl, u32At_of_drop rfl,
    u16At_of_drop rfl, u16At_of_drop rfl⟩

/-- The data of a connector message follows its header. -/
theorem drop_toBytes_append (c : CnMsg) (rest : List UInt8) :
    (c.toBytes ++ rest).drop sizeofCnMsg = c.data ++ rest := by
  simp only [toBytes, List.append_assoc]
  rfl

end CnMsg

theorem cnMsgHdrAt_ofBytes_read {m : Mem UInt8} {p l : ℕ} (h : sizeofCnMsg ≤ l) :
    cnMsgHdrAt (ofBytes (m.read p l)) 0 = cnMsgHdrAt m p := by
  rw [sizeofCnMsg] at h
  simp only [cnMsgHdrAt, Nat.zero_add]
  rw [u32At_ofBytes_read (by omega), u32At_ofBytes_read (by omega),
    u32At_ofBytes_read (by omega), u32At_ofBytes_read (by omega),
    u16At_ofBytes_read (by omega), u16At_ofBytes_read (by omega), Nat.add_zero]

/-- The connector message at an address. -/
def cnMsgAt (m : Mem UInt8) (p : ℕ) : CnMsg where
  idx := (cnMsgHdrAt m p).idx
  val := (cnMsgHdrAt m p).val
  seq := (cnMsgHdrAt m p).seq
  ack := (cnMsgHdrAt m p).ack
  flags := (cnMsgHdrAt m p).flags
  data := m.read (p + sizeofCnMsg) (cnMsgHdrAt m p).len.toNat
  data_lt := by simpa using (cnMsgHdrAt m p).len.toNat_lt

/-- The parser of one connector message. -/
def cnParser : RecordParser UInt8 CnMsg where
  parse bs :=
    if sizeofCnMsg + (cnMsgHdrAt (ofBytes bs) 0).len.toNat ≤ bs.length then
      some (cnMsgAt (ofBytes bs) 0,
        bs.drop (sizeofCnMsg + (cnMsgHdrAt (ofBytes bs) 0).len.toNat))
    else none
  shorter := by
    intro bs r rest h
    obtain ⟨hle, h⟩ := Option.ite_none_right_eq_some.mp h
    obtain ⟨-, rfl⟩ := Prod.mk.inj (Option.some.inj h)
    rw [sizeofCnMsg] at hle ⊢
    rw [List.length_drop]
    omega

theorem cnMsgAt_hdr (m : Mem UInt8) (p : ℕ) : (cnMsgAt m p).hdr = cnMsgHdrAt m p := by
  simp [CnMsg.hdr, cnMsgAt]

/-- A connector message takes up its header and its data. -/
theorem cnParser_size {bs rest : List UInt8} {c : CnMsg}
    (h : cnParser.parse bs = some (c, rest)) :
    sizeofCnMsg + c.data.length + rest.length ≤ bs.length := by
  obtain ⟨hle, h⟩ := Option.ite_none_right_eq_some.mp h
  obtain ⟨rfl, rfl⟩ := Prod.mk.inj (Option.some.inj h)
  rw [List.length_drop, cnMsgAt, Mem.length_read]
  omega

/-- There is no connector message in no bytes. -/
theorem cnParser_nil : cnParser.parse [] = none := rfl

/-- The connector parser reads back what `toBytes` lays out. -/
theorem cnParser_recognises : cnParser.Recognises CnMsg.toBytes := by
  intro c rest
  have hhdr := c.cnMsgHdrAt_toBytes rest
  have hdata := c.drop_toBytes_append rest
  have hdrop : (c.toBytes ++ rest).drop (sizeofCnMsg + c.data.length) = rest :=
    List.drop_left' c.length_toBytes
  have hc : cnMsgAt (ofBytes (c.toBytes ++ rest)) 0 = c := by
    have hread := read_of_drop hdata rfl
    simp only [cnMsgAt, hhdr, c.toNat_hdr_len, Nat.zero_add, hread]
    rfl
  simp only [cnParser, hhdr, c.toNat_hdr_len, hc, hdrop, List.length_append, c.length_toBytes]
  rw [if_pos (by omega)]

/-! ### w1 messages -/

/-- `W1_MASTER_CMD` of `enum w1_netlink_message_types`. -/
def w1MasterCmd : UInt8 := 4

/-- `W1_SLAVE_CMD`. -/
def w1SlaveCmd : UInt8 := 5

/-- `W1_LIST_MASTERS`. -/
def w1ListMasters : UInt8 := 6

/-- `(uint8_t)-ENOMSG`, the status the callbacks give a w1 command they do not expect. -/
def enomsg : UInt8 := 214

/-- `sizeof(struct w1_netlink_msg)`. -/
def sizeofW1NetlinkMsg : ℕ := 12

/-- A `struct w1_netlink_msg` with its data. The `id` union is kept as its eight bytes. -/
structure W1NetlinkMsg where
  type : UInt8
  status : UInt8
  id : UInt64
  data : List UInt8
  data_lt : data.length < 65536
  deriving DecidableEq

/-- The length field of the w1 message at an address. -/
def w1MsgLenAt (m : Mem UInt8) (p : ℕ) : ℕ := (u16At m (p + 2)).toNat

/-- The w1 message at an address. -/
def w1MsgAt (m : Mem UInt8) (p : ℕ) : W1NetlinkMsg where
  type := m p
  status := m (p + 1)
  id := u64At m (p + 4)
  data := m.read (p + sizeofW1NetlinkMsg) (w1MsgLenAt m p)
  data_lt := by simpa [w1MsgLenAt] using (u16At m (p + 2)).toNat_lt

namespace W1NetlinkMsg

theorem noData_lt : ([] : List UInt8).length < 65536 := by decide

/-- The length field. -/
def len (w : W1NetlinkMsg) : ℕ := w.data.length

/-- The `id.mst.id` member of the `id` union. -/
def mstId (w : W1NetlinkMsg) : UInt32 := w.id.toUInt32

/-- A w1 message as bytes. -/
def toBytes (w : W1NetlinkMsg) : List UInt8 :=
  [w.type, w.status] ++ (leBytes 2 w.len ++ (leBytes 8 w.id.toNat ++ w.data))

@[simp]
theorem length_toBytes (w : W1NetlinkMsg) :
    w.toBytes.length = sizeofW1NetlinkMsg + w.len := by
  simp [toBytes, sizeofW1NetlinkMsg, len]
  omega

variable {w : W1NetlinkMsg} {bs rest : List UInt8} {a : ℕ}

theorem w1MsgLenAt_of_drop (h : bs.drop a = w.toBytes ++ rest) :
    w1MsgLenAt (ofBytes bs) a = w.len := by
  have hlen : bs.drop (a + 2) =
      leBytes 2 w.data.length ++ (leBytes 8 w.id.toNat ++ w.data ++ rest) := by
    rw [← List.drop_drop, h, toBytes, List.append_assoc, List.append_assoc]
    rfl
  exact toNat_u16At_of_drop hlen w.data_lt

/-- A w1 message that stands at offset `a` of a byte string is what is read there. -/
theorem w1MsgAt_of_drop (h : bs.drop a = w.toBytes ++ rest) : w1MsgAt (ofBytes bs) a = w := by
  have hlen := w1MsgLenAt_of_drop h
  have hoff : ∀ k, bs.drop (a + k) = (w.toBytes ++ rest).drop k := fun k => by
    rw [← List.drop_drop, h]
  obtain ⟨type, status, id, data, hdata⟩ := w
  simp only [toBytes, List.append_assoc] at hoff
  simp only [w1MsgAt, hlen, mk.injEq]
  exact ⟨ofBytes_of_drop (hoff 0), ofBytes_of_drop (hoff 1), u64At_of_drop (hoff 4),
    read_of_drop (hoff 12) rfl⟩

/-- A w1 message reads back from its bytes. -/
theorem w1MsgAt_toBytes (w : W1NetlinkMsg) : w1MsgAt (ofBytes w.toBytes) 0 = w := by
  have h : w.toBytes.drop 0 = w.toBytes ++ [] := by simp
  exact w1MsgAt_of_drop h

theorem w1MsgLenAt_toBytes (w : W1NetlinkMsg) : w1MsgLenAt (ofBytes w.toBytes) 0 = w.len := by
  have h : w.toBytes.drop 0 = w.toBytes ++ [] := by simp
  exact w1MsgLenAt_of_drop h

end W1NetlinkMsg

theorem w1MsgAt_ofBytes_read {m : Mem UInt8} {p l a : ℕ}
    (h : a + sizeofW1NetlinkMsg + w1MsgLenAt m (p + a) ≤ l) :
    w1MsgAt (ofBytes (m.read p l)) a = w1MsgAt m (p + a) := by
  have hh : a + sizeofW1NetlinkMsg ≤ l := by omega
  have hlen : w1MsgLenAt (ofBytes (m.read p l)) a = w1MsgLenAt m (p + a) := by
    rw [w1MsgLenAt, u16At_ofBytes_read (by rw [sizeofW1NetlinkMsg] at hh; omega), w1MsgLenAt,
      Nat.add_assoc]
  rw [sizeofW1NetlinkMsg] at hh
  simp only [w1MsgAt, hlen, W1NetlinkMsg.mk.injEq, Nat.add_assoc p]
  exact ⟨Mem.ofList_read_apply 0 m (by omega), Mem.ofList_read_apply 0 m (by omega),
    u64At_ofBytes_read (by omega), Mem.read_ofList_read 0 m h⟩

namespace W1NetlinkMsg

/-- The parser of one w1 message. -/
def parser : RecordParser UInt8 W1NetlinkMsg where
  parse bs :=
    if sizeofW1NetlinkMsg + w1MsgLenAt (ofBytes bs) 0 ≤ bs.length then
      some (w1MsgAt (ofBytes bs) 0, bs.drop (sizeofW1NetlinkMsg + w1MsgLenAt (ofBytes bs) 0))
    else none
  shorter := by
    intro bs r rest h
    obtain ⟨hle, h⟩ := Option.ite_none_right_eq_some.mp h
    obtain ⟨-, rfl⟩ := Prod.mk.inj (Option.some.inj h)
    rw [sizeofW1NetlinkMsg] at hle ⊢
    rw [List.length_drop]
    omega

/-- The w1 message parser reads back what `toBytes` lays out. -/
theorem parser_recognises : parser.Recognises toBytes := by
  intro w rest
  have hdrop : (w.toBytes ++ rest).drop (sizeofW1NetlinkMsg + w.len) = rest :=
    List.drop_left' w.length_toBytes
  simp only [parser, w1MsgLenAt_of_drop (a := 0) rfl, w1MsgAt_of_drop (a := 0) rfl, hdrop,
    List.length_append, length_toBytes]
  rw [if_pos (by omega)]

end W1NetlinkMsg

/-! ### w1 commands -/

/-- `sizeof(struct w1_netlink_cmd)`. -/
def sizeofW1NetlinkCmd : ℕ := 4

/-- A `struct w1_netlink_cmd` with its data. -/
structure W1NetlinkCmd where
  cmd : UInt8
  res : UInt8
  data : List UInt8
  data_lt : data.length < 65536
  deriving DecidableEq

/-- The length field of the w1 command at an address. -/
def w1CmdLenAt (m : Mem UInt8) (p : ℕ) : ℕ := (u16At m (p + 2)).toNat

/-- The w1 command at an address. -/
def w1CmdAt (m : Mem UInt8) (p : ℕ) : W1NetlinkCmd where
  cmd := m p
  res := m (p + 1)
  data := m.read (p + sizeofW1NetlinkCmd) (w1CmdLenAt m p)
  data_lt := by simpa [w1CmdLenAt] using (u16At m (p + 2)).toNat_lt

namespace W1NetlinkCmd

/-- The length field. -/
def len (c : W1NetlinkCmd) : ℕ := c.data.length

/-- A w1 command as bytes. -/
def toBytes (c : W1NetlinkCmd) : List UInt8 :=
  [c.cmd, c.res] ++ (leBytes 2 c.len ++ c.data)

@[simp]
theorem length_toBytes (c : W1NetlinkCmd) :
    c.toBytes.length = sizeofW1NetlinkCmd + c.len := by
  simp [toBytes, sizeofW1NetlinkCmd, len]
  omega

variable {c : W1NetlinkCmd} {bs rest : List UInt8} {a : ℕ}

theorem w1CmdLenAt_of_drop (h : bs.drop a = c.toBytes ++ rest) :
    w1CmdLenAt (ofBytes bs) a = c.len := by
  have hlen : bs.drop (a + 2) = leBytes 2 c.data.length ++ (c.data ++ rest) := by
    rw [← List.drop_drop, h, toBytes, List.append_assoc, List.append_assoc]
    rfl
  exact toNat_u16At_of_drop hlen c.data_lt

/-- A w1 command that stands at offset `a` of a byte string is what is read there. -/
theorem w1CmdAt_of_drop (h : bs.drop a = c.toBytes ++ rest) : w1CmdAt (ofBytes bs) a = c := by
  have hlen := w1CmdLenAt_of_drop h
  have hoff : ∀ k, bs.drop (a + k) = (c.toBytes ++ rest).drop k := fun k => by
    rw [← List.drop_drop, h]
  obtain ⟨cmd, res, data, hdata⟩ := c
  simp only [toBytes, List.append_assoc] at hoff
  simp only [w1CmdAt, hlen, mk.injEq]
  exact ⟨ofBytes_of_drop (hoff 0), ofBytes_of_drop (hoff 1), read_of_drop (hoff 4) rfl⟩

/-- The parser of one w1 command: `W1CMD_OK` and `W1CMD_NEXT`. -/
def parser : RecordParser UInt8 W1NetlinkCmd where
  parse bs :=
    if sizeofW1NetlinkCmd + w1CmdLenAt (ofBytes bs) 0 ≤ bs.length then
      some (w1CmdAt (ofBytes bs) 0, bs.drop (sizeofW1NetlinkCmd + w1CmdLenAt (ofBytes bs) 0))
    else none
  shorter := by
    intro bs r rest h
    obtain ⟨hle, h⟩ := Option.ite_none_right_eq_some.mp h
    obtain ⟨-, rfl⟩ := Prod.mk.inj (Option.some.inj h)
    rw [sizeofW1NetlinkCmd] at hle ⊢
    rw [List.length_drop]
    omega

theorem parser_nil : parser.parse [] = none := rfl

/-- The command parser reads back what `toBytes` lays out. -/
theorem parser_recognises : parser.Recognises toBytes := by
  intro c rest
  have hdrop : (c.toBytes ++ rest).drop (sizeofW1NetlinkCmd + c.len) = rest :=
    List.drop_left' c.length_toBytes
  simp only [parser, w1CmdLenAt_of_drop (a := 0) rfl, w1CmdAt_of_drop (a := 0) rfl, hdrop,
    List.length_append, length_toBytes]
  rw [if_pos (by omega)]

/-- A single w1 command is a chain of one. -/
theorem chain_toBytes (c : W1NetlinkCmd) : parser.chain c.toBytes = [c] := by
  simpa using RecordParser.chain_flatMap parser_recognises [c] parser_nil

end W1NetlinkCmd

end Librasp
