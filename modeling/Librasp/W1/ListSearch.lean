import Librasp.Foundation.Elems
import Librasp.W1.Datagram
import Librasp.W1.Send

/-!
# Listing masters and searching for slaves

`list_w1_masters`, `search_w1_slaves` and `search_w1_alarms` collect ids into a buffer of the
caller. The ids arrive in any number of w1 messages, for slaves in the w1 commands of these. The
callbacks count the ids received and copy as many as there is room for.

`Collected` is the invariant: the buffer holds the first ids of all that were received, up to its
capacity.

* `Collects` is what the two callbacks have in common: they collect the ids of good messages until
  a status comes, and a message that is not good is an error. `Collects.deliver` is the rule for a
  run of messages.
* `matched` are the w1 messages that reach the callback, as the reference parser has them; so the
  result is about what was received, and not about the parser.
* The number of ids is a `size_t`, and may wrap on a 32-bit system (`listW1Masters_count_wraps`).

**Main result.** `listQuery_spec`, for the three listings and any datagrams.
-/

namespace Librasp

/-! ### The callbacks -/

/-- `W1_CMD_SEARCH`. -/
def w1CmdSearch : UInt8 := 2

/-- `W1_CMD_ALARM_SEARCH`. -/
def w1CmdAlarmSearch : UInt8 := 3

/-- `list_cb_dta_t`, and the writes to the list buffer. -/
structure ListCbDta where
  elemSz : ℕ
  pList : ℕ
  maxElems : ℕ
  nElems : ℕ
  nRecvElems : ℕ
  status : UInt8
  srchCmd : UInt8
  writes : List (ℕ × List UInt8)

section Callback

variable (w : WordSize)

/-- `__COPY_LIST_ELEMS`, with the count of received elements in front of it. -/
def copyListElems (data : List UInt8) (s : ListCbDta) : ListCbDta :=
  let nRecvElems := data.length / s.elemSz
  let s := { s with nRecvElems := (s.nRecvElems + nRecvElems) % 2 ^ w.bits }
  if 0 < nRecvElems ∧ s.nElems < s.maxElems then
    let listOffs := s.elemSz * s.nElems % 2 ^ w.bits
    let nCopyElems := min nRecvElems (s.maxElems - s.nElems)
    { s with
      nElems := (s.nElems + nCopyElems) % 2 ^ w.bits
      writes := s.writes ++
        [(s.pList + listOffs, data.take (s.elemSz * nCopyElems % 2 ^ w.bits))] }
  else s

/-- `list_masts_cb`. -/
def listMastsCb : RecvW1msgCb ListCbDta := fun s w1msg isStatus =>
  if isStatus then
    if w1msg.status ≠ 0 then (.noMore, { s with status := w1msg.status })
    else (.noMore, copyListElems w w1msg.data { s with status := w1msg.status })
  else (.moreOpt, copyListElems w w1msg.data s)

/-- The loop over the w1 commands: `ret` is the answer so far. -/
def searchFor (ret : W1msgMoreStat) : List W1NetlinkCmd → ListCbDta → W1msgMoreStat × ListCbDta
  | [], s => (ret, s)
  | w1cmd :: w1cmds, s =>
    if w1cmd.cmd ≠ s.srchCmd then (.noMore, { s with status := enomsg })
    else searchFor ret w1cmds (copyListElems w w1cmd.data s)

/-- `search_slavs_cb`. -/
def searchSlavsCb : RecvW1msgCb ListCbDta := fun s w1msg isStatus =>
  if isStatus then
    if w1msg.status ≠ 0 then (.noMore, { s with status := w1msg.status })
    else searchFor w .noMore (W1NetlinkCmd.parser.chain w1msg.data)
      { s with status := w1msg.status }
  else searchFor w .moreOpt (W1NetlinkCmd.parser.chain w1msg.data) s

/-! ### The functions -/

/-- `w1_masters_t` and `w1_slaves_t`, apart from `sz`: where `ids[]` is, and its capacity. -/
structure IdList where
  ids : ℕ
  maxSz : ℕ

/-- What a listing returns: the result, `sz`, what the pointer to the overall number points to
(`none` for `NULL`), and the writes to `ids[]`. -/
structure Listing where
  ret : LrErrc
  sz : ℕ
  pN : Option ℕ
  writes : List (ℕ × List UInt8)

/-- What comes of a call. -/
structure ListingCall where
  hndl : W1Hndl
  sent : Option (List UInt8 × CnMsg)
  ret : Option Listing

/-- The end of `list_w1_masters` and of `__search_slaves`. -/
def listingOf (pN : Option ℕ) (r : LrErrc × ListCbDta) : Listing :=
  if r.1 ≠ .success then ⟨r.1, 0, pN, r.2.writes⟩
  else if r.2.status ≠ 0 then ⟨.protoErr, 0, pN, r.2.writes⟩
  else ⟨.success, r.2.nElems, pN.map fun _ => r.2.nRecvElems, r.2.writes⟩

variable (fuel : ℕ) (hndl : W1Hndl) (list : IdList) (pN : Option ℕ) (env : IoEnv)

/-- `list_w1_masters` and `__search_slaves` from the request on. -/
def listingCall (w1msg : W1NetlinkMsg) (recvCb : RecvW1msgCb ListCbDta) (elemSz : ℕ)
    (srchCmd : UInt8) : ListingCall :=
  let r := sendRecvW1msg w fuel hndl (ofBytes w1msg.toBytes) recvCb
    ⟨elemSz, list.ids, list.maxSz, 0, 0, 0, srchCmd, []⟩ env
  ⟨r.hndl, r.sent, r.ret.map (listingOf pN)⟩

/-- `list_w1_masters`. -/
def listW1Masters : ListingCall :=
  listingCall w fuel hndl list pN env ⟨w1ListMasters, 0, 0, [], W1NetlinkMsg.noData_lt⟩
    (listMastsCb w) 4 0

/-- The request of a search. -/
def searchRequest (srchCmd : UInt8) (master : UInt32) : W1NetlinkMsg :=
  ⟨w1MasterCmd, 0, master.toUInt64, (W1NetlinkCmd.mk srchCmd 0 [] (by decide)).toBytes,
    lt_of_eq_of_lt (W1NetlinkCmd.length_toBytes _) (show 4 < 65536 by decide)⟩

/-- `__search_slaves`. -/
def searchSlaves (srchCmd : UInt8) (master : UInt32) : ListingCall :=
  listingCall w fuel hndl list pN env (searchRequest srchCmd master) (searchSlavsCb w) 8 srchCmd

/-- `search_w1_slaves`. -/
def searchW1Slaves (master : UInt32) : ListingCall :=
  searchSlaves w fuel hndl list pN env w1CmdSearch master

/-- `search_w1_alarms`. -/
def searchW1Alarms (master : UInt32) : ListingCall :=
  searchSlaves w fuel hndl list pN env w1CmdAlarmSearch master

end Callback

/-! ### Collecting ids -/

section Collected

/-- The list buffer holds the first of the ids `L` received so far, up to its capacity, and
nothing was written outside of it. -/
structure Collected (w : WordSize) (k base max : ℕ) (srchCmd : UInt8) (L : List (List UInt8))
    (s : ListCbDta) : Prop where
  srchCmd : s.srchCmd = srchCmd
  status : s.status = 0
  elemSz : s.elemSz = k
  pList : s.pList = base
  maxElems : s.maxElems = max
  length : ∀ e ∈ L, e.length = k
  nElems : s.nElems = min L.length max
  nRecvElems : s.nRecvElems = L.length % 2 ^ w.bits
  read : ∀ mem : Mem UInt8,
    (mem.writeAll s.writes).read base (k * s.nElems) = (L.take s.nElems).flatten
  inside : ∀ v ∈ s.writes, base ≤ v.1 ∧ v.1 + v.2.length ≤ base + k * max

variable {w : WordSize} {k base max : ℕ} {srchCmd : UInt8} {L : List (List UInt8)}
  {s : ListCbDta}

/-- A block of `n` elements below a bound has an offset and a size below it. -/
private theorem mul_lt_of_le {n bound : ℕ} (hbase : 0 < base) (hplaced : base + k * max ≤ bound)
    (hn : n ≤ max) : k * n < bound := by
  have := Nat.mul_le_mul_left k hn
  omega

/-- At the start there are no ids. -/
theorem collected_nil (w : WordSize) (k base max : ℕ) (srchCmd : UInt8) :
    Collected w k base max srchCmd [] ⟨k, base, max, 0, 0, 0, srchCmd, []⟩ where
  srchCmd := rfl
  status := rfl
  elemSz := rfl
  pList := rfl
  maxElems := rfl
  length := by rintro e ⟨⟩
  nElems := (Nat.zero_min max).symm
  nRecvElems := (Nat.zero_mod _).symm
  read := fun mem => rfl
  inside := by rintro v ⟨⟩

/-- **Collecting a block.** Copying the elements of a block adds its ids to those received. As
many are copied as there is still room for; the block may end with a part of an id, which is
none. -/
theorem Collected.copyListElems (h : Collected w k base max srchCmd L s) (hbase : 0 < base)
    (hplaced : base + k * max ≤ 2 ^ w.bits) (hk : 0 < k) (data : List UInt8) :
    Collected w k base max srchCmd (L ++ elems k data) (copyListElems w data s) := by
  have hlen : ∀ e ∈ L ++ elems k data, e.length = k := by
    intro e he
    rcases List.mem_append.mp he with he | he
    · exact h.length e he
    · exact length_of_mem_elems he
  have hrecv : (s.nRecvElems + data.length / k) % 2 ^ w.bits =
      (L ++ elems k data).length % 2 ^ w.bits := by
    rw [h.nRecvElems, List.length_append, length_elems, Nat.mod_add_mod]
  have hnElems := h.nElems
  obtain ⟨n, hn⟩ : ∃ n, n = data.length / k := ⟨_, rfl⟩
  rw [Librasp.copyListElems, h.elemSz, h.pList, h.maxElems]
  dsimp only
  rw [← hn] at hrecv ⊢
  by_cases hroom : 0 < n ∧ s.nElems < max
  · rw [if_pos hroom]
    -- there is room left, so every id received so far was copied
    have hL : s.nElems = L.length := by omega
    obtain ⟨c, hc⟩ : ∃ c, c = min n (max - L.length) := ⟨_, rfl⟩
    have hoffs : k * L.length % 2 ^ w.bits = k * L.length :=
      Nat.mod_eq_of_lt (mul_lt_of_le hbase hplaced (by omega))
    have hsize : k * c % 2 ^ w.bits = k * c :=
      Nat.mod_eq_of_lt (mul_lt_of_le hbase hplaced (by omega))
    have hcount : (L.length + c) % 2 ^ w.bits = L.length + c := by
      refine Nat.mod_eq_of_lt (lt_of_le_of_lt ?_ (mul_lt_of_le hbase hplaced
        (show L.length + c ≤ max by omega)))
      exact Nat.le_mul_of_pos_left _ hk
    have hdata : (data.take (k * c)).length = k * c := by
      refine List.length_take_of_le ((Nat.mul_le_mul_left k ?_).trans (Nat.mul_div_le _ k))
      omega
    have hfull : k * (L.length + c) ≤ k * max := Nat.mul_le_mul_left k (by omega)
    rw [hL, ← hc, hoffs, hsize, hcount]
    refine ⟨h.srchCmd, h.status, rfl, rfl, rfl, hlen, ?_, hrecv, fun mem => ?_, fun v hv => ?_⟩
    · rw [List.length_append, length_elems, ← hn]
      dsimp only
      omega
    · have hread := h.read mem
      rw [hL, List.take_length] at hread
      have happend := (mem.writeAll s.writes).read_write_append base (k * L.length)
        (data.take (k * c))
      rw [hdata, hread] at happend
      rw [Mem.writeAll_concat, Nat.mul_add, happend, List.take_length_add_append,
        List.flatten_append, flatten_take_elems (by omega)]
    · rcases List.mem_append.mp hv with hv | hv
      · exact h.inside v hv
      · rw [List.mem_singleton.mp hv, hdata]
        rw [Nat.mul_add] at hfull
        dsimp only
        omega
  · -- nothing is copied: no id arrived, or the buffer is full already
    rw [if_neg hroom]
    refine ⟨h.srchCmd, h.status, rfl, rfl, rfl, hlen, ?_, hrecv, fun mem => ?_, h.inside⟩
    · rw [List.length_append, length_elems, ← hn]
      dsimp only
      omega
    · have hle : s.nElems ≤ L.length := by omega
      dsimp only
      rw [h.read mem, List.take_append_of_le_length hle]

end Collected

/-! ### The callbacks collect -/

/-- The messages up to and including the first status. -/
def throughStatus : List (W1NetlinkMsg × Bool) → List (W1NetlinkMsg × Bool)
  | [] => []
  | r :: rs => if r.2 then [r] else r :: throughStatus rs

theorem throughStatus_eq_self {rs : List (W1NetlinkMsg × Bool)} (h : ∀ r ∈ rs, r.2 = false) :
    throughStatus rs = rs := by
  induction rs with
  | nil => rfl
  | cons r rs ih =>
    rw [throughStatus, h r List.mem_cons_self, if_neg Bool.false_ne_true,
      ih fun x hx => h x (List.mem_cons_of_mem _ hx)]

/-- A callback collects the ids of the messages it is handed, as long as they are good, and ends
with a status; a message that is not good is an error. -/
def Collects (w : WordSize) (k base max : ℕ) (srchCmd : UInt8) (recvCb : RecvW1msgCb ListCbDta)
    (ids : W1NetlinkMsg → List (List UInt8)) (good : W1NetlinkMsg × Bool → Prop) : Prop :=
  ∀ (s : ListCbDta) (L : List (List UInt8)) (r : W1NetlinkMsg × Bool),
    Collected w k base max srchCmd L s →
      let p := recvCb s r.1 r.2
      ¬ good r ∧ p.1 = .noMore ∧ p.2.status ≠ 0 ∧
          (∀ v ∈ p.2.writes, base ≤ v.1 ∧ v.1 + v.2.length ≤ base + k * max) ∨
        good r ∧ p.1 = (if r.2 then .noMore else .moreOpt) ∧
          Collected w k base max srchCmd (L ++ ids r.1) p.2

section Collects

variable {w : WordSize} {k base max : ℕ} {srchCmd : UInt8} {L : List (List UInt8)}
  {s : ListCbDta}

/-- `list_masts_cb` collects the ids in the data of the messages. -/
theorem listMastsCb_collects (hbase : 0 < base) (hplaced : base + k * max ≤ 2 ^ w.bits)
    (hk : 0 < k) : Collects w k base max srchCmd (listMastsCb w) (fun r => elems k r.data)
      fun r => r.2 = true → r.1.status = 0 := by
  rintro s L ⟨w1msg, isStatus⟩ h
  have hcopy := h.copyListElems hbase hplaced hk w1msg.data
  dsimp only [listMastsCb]
  cases isStatus with
  | false =>
    right
    exact ⟨by rintro ⟨⟩, rfl, hcopy⟩
  | true =>
    by_cases hstatus : w1msg.status = 0
    · right
      have hs : { s with status := w1msg.status } = s := by rw [hstatus, ← h.status]
      rw [if_pos rfl, if_neg (not_not.mpr hstatus), hs]
      exact ⟨fun _ => hstatus, rfl, hcopy⟩
    · left
      rw [if_pos rfl, if_pos hstatus]
      exact ⟨fun hgood => hstatus (hgood rfl), rfl, hstatus, h.inside⟩

/-- The loop over the w1 commands collects the ids in their data. A command of another code ends
it with an error; the induction is on the commands. -/
theorem searchFor_collects (hbase : 0 < base) (hplaced : base + k * max ≤ 2 ^ w.bits)
    (hk : 0 < k) (ret : W1msgMoreStat) {w1cmds : List W1NetlinkCmd}
    (h : Collected w k base max srchCmd L s) :
    let p := searchFor w ret w1cmds s
    ¬ (∀ c ∈ w1cmds, c.cmd = srchCmd) ∧ p.1 = .noMore ∧ p.2.status ≠ 0 ∧
        (∀ v ∈ p.2.writes, base ≤ v.1 ∧ v.1 + v.2.length ≤ base + k * max) ∨
      (∀ c ∈ w1cmds, c.cmd = srchCmd) ∧ p.1 = ret ∧
        Collected w k base max srchCmd (L ++ w1cmds.flatMap fun c => elems k c.data) p.2 := by
  induction w1cmds generalizing L s with
  | nil =>
    right
    rw [List.flatMap_nil, List.append_nil]
    exact ⟨by rintro c ⟨⟩, rfl, h⟩
  | cons c w1cmds ih =>
    rw [searchFor, h.srchCmd]
    by_cases hcmd : c.cmd = srchCmd
    · rw [if_neg (not_not.mpr hcmd)]
      rcases ih (h.copyListElems hbase hplaced hk c.data) with
        ⟨hnot, herr⟩ | ⟨hall, hret, hcoll⟩
      · exact .inl ⟨fun hall => hnot fun c' hc' => hall c' (List.mem_cons_of_mem _ hc'), herr⟩
      · right
        rw [List.append_assoc] at hcoll
        refine ⟨fun c' hc' => ?_, hret, hcoll⟩
        rcases List.mem_cons.mp hc' with rfl | hc'
        · exact hcmd
        · exact hall c' hc'
    · left
      rw [if_pos hcmd]
      exact ⟨fun hall => hcmd (hall c List.mem_cons_self), rfl, by dsimp only; decide, h.inside⟩

/-- `search_slavs_cb` collects the ids in the data of the w1 commands. -/
theorem searchSlavsCb_collects (hbase : 0 < base) (hplaced : base + k * max ≤ 2 ^ w.bits)
    (hk : 0 < k) : Collects w k base max srchCmd (searchSlavsCb w)
      (fun r => (W1NetlinkCmd.parser.chain r.data).flatMap fun c => elems k c.data)
      fun r => (r.2 = true → r.1.status = 0) ∧
        ∀ c ∈ W1NetlinkCmd.parser.chain r.1.data, c.cmd = srchCmd := by
  rintro s L ⟨w1msg, isStatus⟩ h
  dsimp only [searchSlavsCb]
  cases isStatus with
  | false =>
    rcases searchFor_collects hbase hplaced hk .moreOpt h with
      ⟨hnot, herr⟩ | ⟨hall, hret, hcoll⟩
    · exact .inl ⟨fun hgood => hnot hgood.2, herr⟩
    · exact .inr ⟨⟨by rintro ⟨⟩, hall⟩, hret, hcoll⟩
  | true =>
    by_cases hstatus : w1msg.status = 0
    · -- storing the zero status changes nothing, as no error was stored before
      have hs : { s with status := w1msg.status } = s := by rw [hstatus, ← h.status]
      rw [if_pos rfl, if_neg (not_not.mpr hstatus), hs]
      rcases searchFor_collects hbase hplaced hk .noMore h with
        ⟨hnot, herr⟩ | ⟨hall, hret, hcoll⟩
      · exact .inl ⟨fun hgood => hnot hgood.2, herr⟩
      · exact .inr ⟨⟨fun _ => hstatus, hall⟩, hret, hcoll⟩
    · left
      rw [if_pos rfl, if_pos hstatus]
      exact ⟨fun hgood => hstatus (hgood.1 rfl), rfl, hstatus, h.inside⟩

/-- **Collecting a run of messages.** A callback that is handed a run of messages ends with an
error, or it has collected the ids of the messages up to the first status, all of them good. -/
theorem Collects.deliver {recvCb : RecvW1msgCb ListCbDta}
    {ids : W1NetlinkMsg → List (List UInt8)} {good : W1NetlinkMsg × Bool → Prop}
    (hcb : Collects w k base max srchCmd recvCb ids good) (rs : List (W1NetlinkMsg × Bool))
    {ms : W1msgMoreStat} (hms : ms ≠ .noMore) (h : Collected w k base max srchCmd L s) :
    let p := Librasp.deliver recvCb rs (ms, s)
    ¬ (∀ r ∈ throughStatus rs, good r) ∧ p.2.status ≠ 0 ∧
        (∀ v ∈ p.2.writes, base ≤ v.1 ∧ v.1 + v.2.length ≤ base + k * max) ∨
      (∀ r ∈ throughStatus rs, good r) ∧ (rs = [] ∨ p.1 ≠ .moreReq) ∧
        Collected w k base max srchCmd (L ++ (throughStatus rs).flatMap fun r => ids r.1) p.2 := by
  induction rs generalizing ms s L with
  | nil =>
    right
    rw [throughStatus, List.flatMap_nil, List.append_nil]
    exact ⟨by rintro r ⟨⟩, .inl rfl, h⟩
  | cons r rs ih =>
    rcases hp : recvCb s r.1 r.2 with ⟨ms', s'⟩
    rw [deliver_step hms hp]
    have hstep := hcb s L r h
    rw [hp] at hstep
    rcases hstep with ⟨hbad, hno, hstatus, hin⟩ | ⟨hgood, hms', hcoll⟩
    · left
      rw [deliver_noMore rs hno]
      refine ⟨fun hall => hbad (hall r ?_), hstatus, hin⟩
      rw [throughStatus]
      split <;> exact List.mem_cons_self
    · rw [throughStatus]
      dsimp only at hms' hcoll
      by_cases hst : r.2 = true
      · -- a status ends the run: the callback is not called on what follows
        right
        rw [if_pos hst] at hms' ⊢
        rw [deliver_noMore rs hms', hms', List.flatMap_singleton]
        refine ⟨fun x hx => ?_, .inr (by rintro ⟨⟩), hcoll⟩
        rwa [List.mem_singleton.mp hx]
      · rw [if_neg hst] at hms' ⊢
        have hne : ms' ≠ .noMore := by
          rw [hms']
          rintro ⟨⟩
        rw [List.flatMap_cons, ← List.append_assoc]
        rcases ih hne hcoll with ⟨hbad, herr⟩ | ⟨hall, hmore, hcoll'⟩
        · exact .inl ⟨fun hall => hbad fun x hx => hall x (List.mem_cons_of_mem _ hx), herr⟩
        · refine .inr ⟨fun x hx => ?_, .inr ?_, hcoll'⟩
          · rcases List.mem_cons.mp hx with rfl | hx
            · exact hgood
            · exact hall x hx
          · rcases hmore with rfl | hmore
            · rw [Librasp.deliver, hms']
              rintro ⟨⟩
            · exact hmore

end Collects

/-! ### The functions -/

/-- The three listings. -/
inductive ListQuery
  /-- `list_w1_masters`. -/
  | masters
  /-- `search_w1_slaves`. -/
  | slaves (master : UInt32)
  /-- `search_w1_alarms`. -/
  | alarms (master : UInt32)

namespace ListQuery

/-- The call. -/
def call (w : WordSize) (fuel : ℕ) (hndl : W1Hndl) (list : IdList) (pN : Option ℕ) (env : IoEnv) :
    ListQuery → ListingCall
  | masters => listW1Masters w fuel hndl list pN env
  | slaves master => searchW1Slaves w fuel hndl list pN env master
  | alarms master => searchW1Alarms w fuel hndl list pN env master

/-- The size of an id. -/
def elemSz : ListQuery → ℕ
  | masters => 4
  | _ => 8

/-- The ids in a w1 message: for slaves those in its w1 commands. -/
def ids : ListQuery → W1NetlinkMsg → List (List UInt8)
  | masters, r => elems 4 r.data
  | _, r => (W1NetlinkCmd.parser.chain r.data).flatMap fun c => elems 8 c.data

/-- A w1 message that is no error: a status is zero, and the w1 commands of a search are of the
code searched with. -/
def Good : ListQuery → W1NetlinkMsg × Bool → Prop
  | masters, r => r.2 = true → r.1.status = 0
  | slaves _, r => (r.2 = true → r.1.status = 0) ∧
    ∀ c ∈ W1NetlinkCmd.parser.chain r.1.data, c.cmd = w1CmdSearch
  | alarms _, r => (r.2 = true → r.1.status = 0) ∧
    ∀ c ∈ W1NetlinkCmd.parser.chain r.1.data, c.cmd = w1CmdAlarmSearch

end ListQuery

/-- The caller has allocated the list: `ids[]` lies within the address space. -/
structure IdList.Allocated (list : IdList) (w : WordSize) (elemSz : ℕ) : Prop where
  pos : 0 < list.ids
  fits : list.ids + elemSz * list.maxSz ≤ 2 ^ w.bits

/-- The w1 messages that the receive loop hands on, as far as the callback wants them: those of
the datagrams up to its end. -/
def matched (pReq : CnMsg) : List RecvEvent → List (W1NetlinkMsg × Bool)
  | .datagram bs :: es =>
    match nlChain (bs.take maxW1NetlinkMsgSz) with
    | some (.ok payload) => records pReq payload ++ matched pReq es
    | _ => []
  | _ => []

/-- The messages that match of plain datagrams. -/
theorem matched_datagrams {pReq : CnMsg} {ds : List Datagram}
    (hds : ∀ d ∈ ds, d.IsPlain pReq.seq) (es : List RecvEvent) :
    matched pReq (recvEvents ds ++ .pollTimeout :: es) = ds.flatMap fun d => d.arrived pReq := by
  induction ds with
  | nil => rfl
  | cons d ds ih =>
    have hevents : recvEvents (d :: ds) ++ .pollTimeout :: es =
        .datagram d.toBytes :: (recvEvents ds ++ .pollTimeout :: es) := rfl
    rw [hevents, matched, nlChain_take_toBytes]
    dsimp only
    rw [(hds d List.mem_cons_self).records, ih fun d' hd' => hds d' (List.mem_cons_of_mem _ hd'),
      List.flatMap_cons]

/-- The receive loop hands the callback the messages that match. The induction is on the events of
the loop; a datagram with an error ends it. -/
theorem refLoop_matched {σ : Type*} {pReq : CnMsg} {recvCb : RecvW1msgCb σ}
    {es : List RecvEvent} {n : ℕ} {s : W1msgMoreStat × σ} {ret : LrErrc} {priv : σ}
    (h : refLoop pReq recvCb es n s = some (ret, priv)) :
    priv = (deliver recvCb (matched pReq es) s).2 := by
  induction es generalizing n s with
  | nil => cases h
  | cons e es ih =>
    cases e with
    | pollTimeout =>
      rw [refLoop] at h
      split_ifs at h <;> cases h <;> rfl
    | pollError =>
      cases h
      rfl
    | recvError =>
      cases h
      rfl
    | datagram bs =>
      rw [refLoop] at h
      rw [matched]
      rcases hnl : nlChain (bs.take maxW1NetlinkMsgSz) with _ | e | payload
      · rw [hnl] at h
        cases h
      · rw [hnl] at h
        cases h
        rfl
      · rw [hnl] at h
        rw [ih h, deliver_append]

/-- What a listing is to return, for the messages that match: on success the first ids of all
that were received, up to the capacity, and how many were received, modulo what a `size_t` can
hold; on failure nothing. Nothing is written outside of `ids[]`. -/
structure Listed (w : WordSize) (k : ℕ) (list : IdList) (ids : W1NetlinkMsg → List (List UInt8))
    (good : W1NetlinkMsg × Bool → Prop) (pN : Option ℕ) (rs : List (W1NetlinkMsg × Bool))
    (r : Listing) : Prop where
  success : r.ret = .success →
    let L := (throughStatus rs).flatMap fun x => ids x.1
    (∀ x ∈ throughStatus rs, good x) ∧ r.sz = min L.length list.maxSz ∧
      (∀ mem : Mem UInt8,
        (mem.writeAll r.writes).read list.ids (k * r.sz) = (L.take r.sz).flatten) ∧
      r.pN = pN.map fun _ => L.length % 2 ^ w.bits
  failure : r.ret ≠ .success → r.sz = 0 ∧ r.pN = pN
  frame : ∀ (mem : Mem UInt8) (x : ℕ), x < list.ids ∨ list.ids + k * list.maxSz ≤ x →
    mem.writeAll r.writes x = mem x

section Spec

variable {w : WordSize} {fuel : ℕ} {hndl : W1Hndl} {list : IdList} {pN : Option ℕ} {env : IoEnv}
  {w1msg : W1NetlinkMsg} {recvCb : RecvW1msgCb ListCbDta} {k : ℕ} {srchCmd : UInt8}
  {ids : W1NetlinkMsg → List (List UInt8)} {good : W1NetlinkMsg × Bool → Prop}

/-- The end of a listing, with the callback's data after a run of messages: a list with as many
ids as there is room for, and the number of all of them. -/
theorem listed_listingOf (hcb : Collects w k list.ids list.maxSz srchCmd recvCb ids good)
    (rs : List (W1NetlinkMsg × Bool)) (ret : LrErrc) :
    Listed w k list ids good pN rs (listingOf pN (ret, (deliver recvCb rs
      (.moreReq, ⟨k, list.ids, list.maxSz, 0, 0, 0, srchCmd, []⟩)).2)) := by
  -- the frame holds on every way out, so it is shown of all states
  have hframe : ∀ s : ListCbDta, (∀ v ∈ s.writes,
      list.ids ≤ v.1 ∧ v.1 + v.2.length ≤ list.ids + k * list.maxSz) →
      ∀ (mem : Mem UInt8) (x : ℕ), x < list.ids ∨ list.ids + k * list.maxSz ≤ x →
        mem.writeAll s.writes x = mem x := by
    intro s hin mem x hx
    refine Mem.writeAll_apply_of_forall_not_mem mem fun v hv => ?_
    have := hin v hv
    omega
  have hrun := hcb.deliver rs (show W1msgMoreStat.moreReq ≠ .noMore by decide)
    (collected_nil w k list.ids list.maxSz srchCmd)
  generalize (deliver recvCb rs (.moreReq, ⟨k, list.ids, list.maxSz, 0, 0, 0, srchCmd, []⟩)) = p
    at hrun ⊢
  rw [listingOf]
  by_cases hret : ret = .success
  · rcases hrun with ⟨-, hstatus, hin⟩ | ⟨hall, -, hcoll⟩
    · rw [if_neg (not_not.mpr hret), if_pos hstatus]
      exact ⟨by rintro ⟨⟩, fun _ => ⟨rfl, rfl⟩, hframe p.2 hin⟩
    · rw [if_neg (not_not.mpr hret), if_neg (not_not.mpr hcoll.status)]
      refine ⟨fun _ => ⟨hall, hcoll.nElems, hcoll.read, ?_⟩, fun h => absurd rfl h,
        hframe p.2 hcoll.inside⟩
      dsimp only
      rw [hcoll.nRecvElems]
      rfl
  · rw [if_pos hret]
    refine ⟨fun h => absurd h hret, fun _ => ⟨rfl, rfl⟩, hframe p.2 ?_⟩
    rcases hrun with ⟨-, -, hin⟩ | ⟨-, -, hcoll⟩
    · exact hin
    · exact hcoll.inside

/-- The request of a listing is read off its struct. -/
theorem read_ofBytes_toBytes (w1msg : W1NetlinkMsg) :
    (ofBytes w1msg.toBytes).read 0
      (sizeofW1NetlinkMsg + w1MsgLenAt (ofBytes w1msg.toBytes) 0) = w1msg.toBytes := by
  rw [W1NetlinkMsg.w1MsgLenAt_toBytes, ← W1NetlinkMsg.length_toBytes, ofBytes,
    Mem.read_ofList 0 (by rw [Nat.zero_add]), List.drop_zero, List.take_length]

/-- A listing sends its request and takes in the replies to it. The request is one header without
data, or with one search command. -/
theorem listingCall_eq (w : WordSize) (fuel : ℕ) (hndl : W1Hndl) (list : IdList)
    (pN : Option ℕ) (env : IoEnv) (recvCb : RecvW1msgCb ListCbDta) (k : ℕ) (srchCmd : UInt8)
    (hsize : w1msg.toBytes.length ≤ 1024) :
    ∃ bs req h, req = requestMsg (hndl.seq % seqRange) w1msg.toBytes h ∧
      listingCall w fuel hndl list pN env w1msg recvCb k srchCmd =
        ⟨⟨hndl.seq + 1⟩, some (bs, req),
          (if env.sendOk then recvW1msg w fuel req recvCb env.recvBuf
              ⟨k, list.ids, list.maxSz, 0, 0, 0, srchCmd, []⟩ env.events
            else some (.commErr, ⟨k, list.ids, list.maxSz, 0, 0, 0, srchCmd, []⟩)).map
            (listingOf pN)⟩ := by
  obtain ⟨hgt, -⟩ | ⟨-, h, hok⟩ :=
    sendW1msg_cases hndl (ofBytes w1msg.toBytes) env.sendBuf (read_ofBytes_toBytes w1msg)
  · simp only [nlmsgAlign, nlmsgLength, sizeofCnMsg, nlmsgHdrlen, maxW1NetlinkMsgSz] at hgt
    omega
  · refine ⟨requestBytes (hndl.seq % seqRange) w1msg.toBytes h, _, h, rfl, ?_⟩
    simp only [listingCall, sendRecvW1msg, hok]

/-- The request is not empty. -/
theorem data_pos_requestMsg (seq : UInt32) (h : w1msg.toBytes.length < 65536) :
    0 < (requestMsg seq w1msg.toBytes h).data.length := by
  simp [requestMsg, sizeofW1NetlinkMsg]

/-- A listing returns what the messages that match come to, whatever events the receive loop meets
and whatever the buffers held. -/
theorem listingCall_spec (hcb : Collects w k list.ids list.maxSz srchCmd recvCb ids good)
    (hfuel : maxW1NetlinkMsgSz < fuel) (hsize : w1msg.toBytes.length ≤ 1024) {r : Listing}
    (hret : (listingCall w fuel hndl list pN env w1msg recvCb k srchCmd).ret = some r) :
    ∃ bs req, (listingCall w fuel hndl list pN env w1msg recvCb k srchCmd).sent =
        some (bs, req) ∧ Listed w k list ids good pN (matched req env.events) r := by
  obtain ⟨bs, req, h, hreq, hcall⟩ :=
    listingCall_eq w fuel hndl list pN env recvCb k srchCmd hsize
  rw [hcall] at hret ⊢
  refine ⟨bs, req, rfl, ?_⟩
  obtain ⟨⟨ret, priv⟩, hpair, rfl⟩ := Option.map_eq_some_iff.mp hret
  by_cases hsend : env.sendOk = true
  · have hpos : ¬ req.data.length ≤ 0 := not_le.mpr (hreq ▸ data_pos_requestMsg _ h)
    rw [if_pos hsend, recvW1msg_eq_refRecv w _ _ hfuel, refRecv, if_neg hpos] at hpair
    rw [refLoop_matched hpair]
    exact listed_listingOf hcb _ ret
  · rw [if_neg hsend] at hpair
    cases hpair
    have hnone : Listed w k list ids good pN [] _ := listed_listingOf hcb [] .commErr
    exact ⟨by rintro ⟨⟩, hnone.failure, hnone.frame⟩

/-- `list_w1_masters`. -/
theorem listW1Masters_spec (hlist : list.Allocated w 4) (hfuel : maxW1NetlinkMsgSz < fuel)
    {r : Listing} (hret : (listW1Masters w fuel hndl list pN env).ret = some r) :
    ∃ bs req, (listW1Masters w fuel hndl list pN env).sent = some (bs, req) ∧
      Listed w 4 list (ListQuery.ids .masters) (ListQuery.Good .masters) pN
        (matched req env.events) r :=
  listingCall_spec (listMastsCb_collects hlist.pos hlist.fits (by decide)) hfuel
    (by rw [W1NetlinkMsg.length_toBytes]; decide) hret

/-- `__search_slaves`. -/
theorem searchSlaves_spec (hlist : list.Allocated w 8) (hfuel : maxW1NetlinkMsgSz < fuel)
    {srchCmd : UInt8} {master : UInt32} {r : Listing}
    (hret : (searchSlaves w fuel hndl list pN env srchCmd master).ret = some r) :
    ∃ bs req, (searchSlaves w fuel hndl list pN env srchCmd master).sent = some (bs, req) ∧
      Listed w 8 list (fun r => (W1NetlinkCmd.parser.chain r.data).flatMap fun c => elems 8 c.data)
        (fun r => (r.2 = true → r.1.status = 0) ∧
          ∀ c ∈ W1NetlinkCmd.parser.chain r.1.data, c.cmd = srchCmd) pN
        (matched req env.events) r :=
  listingCall_spec (searchSlavsCb_collects hlist.pos hlist.fits (by decide)) hfuel
    (by simp [searchRequest, W1NetlinkMsg.len, W1NetlinkCmd.len, sizeofW1NetlinkMsg,
      sizeofW1NetlinkCmd]) hret

/-- **Listings.** On success a listing returns the first of the ids received, in order and up to
the capacity of the list, and their number modulo what a `size_t` can hold; on failure it leaves
an empty list and the number as it was. Nothing is written outside of `ids[]`. -/
theorem listQuery_spec (q : ListQuery) (hlist : list.Allocated w q.elemSz)
    (hfuel : maxW1NetlinkMsgSz < fuel) {r : Listing}
    (hret : (q.call w fuel hndl list pN env).ret = some r) :
    ∃ bs req, (q.call w fuel hndl list pN env).sent = some (bs, req) ∧
      Listed w q.elemSz list q.ids q.Good pN (matched req env.events) r := by
  cases q with
  | masters => exact listW1Masters_spec hlist hfuel hret
  | slaves master => exact searchSlaves_spec hlist hfuel hret
  | alarms master => exact searchSlaves_spec hlist hfuel hret

end Spec

/-! ### More ids than a `size_t` can count -/

/-- A w1 message with 512 ids of masters. -/
def manyMasters : W1NetlinkMsg := ⟨w1ListMasters, 0, 0, List.replicate 2048 1, by
  rw [List.length_replicate]; decide⟩

theorem length_manyMasters : manyMasters.toBytes.length = 2060 := by
  rw [W1NetlinkMsg.length_toBytes, W1NetlinkMsg.len, manyMasters, List.length_replicate]
  rfl

/-- A system that replies to a first listing with `n` such messages. -/
def manyMastersEnv (n : ℕ) : IoEnv where
  sendBuf := fun _ => 0
  recvBuf := fun _ => 0
  sendOk := true
  events := recvEvents (List.replicate n
    (singleReply 0 1 manyMasters (by rw [length_manyMasters]; decide))) ++ [.pollTimeout]

/-- Such a listing succeeds, and its messages hold 512 ids each. The datagrams are alike but for
nothing, so that the number of ids is told by their number. -/
theorem listW1Masters_manyMasters (w : WordSize) (list : IdList) (pN : Option ℕ) {n : ℕ}
    (hpos : 0 < n) (hlt : n < 2 ^ 32) (hlist : list.Allocated w 4) :
    ∃ bs req r, (listW1Masters w 4113 w1Init list pN (manyMastersEnv n)).sent = some (bs, req) ∧
      (listW1Masters w 4113 w1Init list pN (manyMastersEnv n)).ret = some r ∧
      r.ret = .success ∧
      ((throughStatus (matched req (manyMastersEnv n).events)).flatMap fun x =>
        ListQuery.ids .masters x.1).length = n * 512 := by
  have hsize : (W1NetlinkMsg.mk w1ListMasters 0 0 [] (by decide)).toBytes.length ≤ 1024 := by decide
  obtain ⟨bs, req, h, hreq, hcall⟩ :=
    listingCall_eq w 4113 w1Init list pN (manyMastersEnv n) (listMastsCb w) 4 0 hsize
  have hseq : req.seq = 0 := hreq ▸ rfl
  have hlen : manyMasters.toBytes.length < 65536 := by
    rw [length_manyMasters]
    decide
  have hle : manyMasters.toBytes.length ≤ 4076 := by
    rw [length_manyMasters]
    decide
  obtain ⟨d, hd⟩ : ∃ d, d = singleReply req.seq 1 manyMasters hlen := ⟨_, rfl⟩
  have hevents : (manyMastersEnv n).events = recvEvents (List.replicate n d) ++ [.pollTimeout] := by
    rw [hd, manyMastersEnv]
    simp only [hseq]
  have hplain : ∀ d' ∈ List.replicate n d, d'.IsPlain req.seq := by
    intro d' hd'
    rw [List.eq_of_mem_replicate hd', hd]
    exact isPlain_singleReply hlen hle _
  have hans : Answers (w1Req req) manyMasters := by
    rw [hreq, w1Req_requestMsg]
    exact ⟨rfl, by rintro ⟨⟩, by rintro ⟨⟩⟩
  have harrived : ((List.replicate n d).flatMap fun d => d.arrived req) =
      List.replicate n (manyMasters, false) := by
    rw [List.flatMap_replicate, hd, arrived_singleReply hlen hle hans]
    exact List.flatten_replicate_singleton
  have hmatched : matched req (manyMastersEnv n).events =
      List.replicate n (manyMasters, false) := by
    rw [hevents, matched_datagrams hplain, harrived]
  have hthrough : throughStatus (List.replicate n (manyMasters, false)) =
      List.replicate n (manyMasters, false) :=
    throughStatus_eq_self fun r hr => by rw [List.eq_of_mem_replicate hr]
  have hpos' : 0 < req.data.length := hreq ▸ data_pos_requestMsg _ h
  -- no message is a status, so the callback collects all of them
  have hcollects : Collects w 4 list.ids list.maxSz 0 (listMastsCb w) _ _ :=
    listMastsCb_collects hlist.pos hlist.fits (by decide)
  obtain ⟨hbad, -⟩ | ⟨-, hmore, hcoll⟩ :=
    hcollects.deliver (List.replicate n (manyMasters, false))
      (show W1msgMoreStat.moreReq ≠ .noMore by decide) (collected_nil w 4 list.ids list.maxSz 0)
  · refine absurd (fun r hr => ?_) hbad
    rw [hthrough] at hr
    rw [List.eq_of_mem_replicate hr]
    rintro ⟨⟩
  have hcode := hmore.resolve_left (by simp [hpos.ne'])
  have hret : (listW1Masters w 4113 w1Init list pN (manyMastersEnv n)).ret =
      some (listingOf pN (.success, (deliver (listMastsCb w)
        (List.replicate n (manyMasters, false))
        (.moreReq, ⟨4, list.ids, list.maxSz, 0, 0, 0, 0, []⟩)).2)) := by
    have hsend : (manyMastersEnv n).sendOk = true := rfl
    rw [listW1Masters, hcall, if_pos hsend, hevents,
      recvW1msg_datagrams w (by decide) hpos' _ hplain (by rwa [List.length_replicate]) [],
      harrived, List.length_replicate]
    dsimp only
    rw [if_neg (by rintro (hzero | hreq); exacts [hpos.ne' hzero, hcode hreq])]
    rfl
  refine ⟨bs, req, _, by rw [listW1Masters, hcall], hret, ?_, ?_⟩
  · rw [listingOf, if_neg (by simp), if_neg (not_not.mpr hcoll.status)]
  · rw [hmatched, hthrough, List.flatMap_replicate, List.length_flatten, List.map_replicate,
      List.sum_replicate, smul_eq_mul]
    dsimp only [ListQuery.ids]
    rw [length_elems, manyMasters, List.length_replicate]

/-- On a system with 32-bit words the count of `2 ^ 32` ids comes out as zero. -/
theorem listW1Masters_count_wraps :
    ∃ bs req r,
      (listW1Masters .ilp32 4113 w1Init ⟨1000, 1⟩ (some 7) (manyMastersEnv 8388608)).sent =
        some (bs, req) ∧
      (listW1Masters .ilp32 4113 w1Init ⟨1000, 1⟩ (some 7) (manyMastersEnv 8388608)).ret =
        some r ∧
      r.ret = .success ∧
      ((throughStatus (matched req (manyMastersEnv 8388608).events)).flatMap fun x =>
        ListQuery.ids .masters x.1).length = 2 ^ 32 ∧
      r.pN = some 0 := by
  have hlist : IdList.Allocated ⟨1000, 1⟩ .ilp32 4 := ⟨by decide, by decide⟩
  obtain ⟨bs, req, r, hsent, hret, hsucc, hlen⟩ := listW1Masters_manyMasters .ilp32 ⟨1000, 1⟩
    (some 7) (n := 8388608) (by decide) (by decide) hlist
  obtain ⟨bs', req', hsent', hlisted⟩ := listW1Masters_spec hlist (by decide) hret
  rw [hsent] at hsent'
  obtain ⟨-, rfl⟩ := Prod.mk.inj (Option.some.inj hsent')
  refine ⟨bs, req, r, hsent, hret, hsucc, hlen, ?_⟩
  rw [(hlisted.success hsucc).2.2.2, hlen]
  rfl

/-- A listing with room for one of 512 ids. -/
theorem listQuery_spec_manyMasters :
    ∃ bs req r,
      (ListQuery.masters.call .lp64 4113 w1Init ⟨1000, 1⟩ none (manyMastersEnv 1)).sent =
        some (bs, req) ∧
      r.ret = .success ∧
      Listed .lp64 4 ⟨1000, 1⟩ (ListQuery.ids .masters) (ListQuery.Good .masters) none
        (matched req (manyMastersEnv 1).events) r := by
  have hlist : IdList.Allocated ⟨1000, 1⟩ .lp64 4 := ⟨by decide, by decide⟩
  obtain ⟨-, -, r, -, hret, hsucc, -⟩ := listW1Masters_manyMasters .lp64 ⟨1000, 1⟩ none
    (n := 1) (by decide) (by decide) hlist
  obtain ⟨bs, req, hsent, hlisted⟩ := listQuery_spec .masters hlist (by decide) hret
  exact ⟨bs, req, r, hsent, hsucc, hlisted⟩

end Librasp
