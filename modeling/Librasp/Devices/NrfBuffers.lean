import Librasp.Devices.NrfErrors

/-!
# The buffers of the multi-byte transfers

Payloads and addresses go through buffers of `NRF_MAX_PL` bytes and a command. Their length is an
argument, or what the transceiver tells, and nothing compares it with `NRF_MAX_PL`.

The functions are followed with what they do to the buffers (`BufM`); without it they are the
functions of the model (`erases_exec`). `nrfBufCall_safe_iff` says when a call stays within the
buffers and returns a length that it knows: lengths above 32 and transfers that fail are not
caught.

* A `BufOp` is an access to the buffers of a transfer or to the caller's; it is made whether or
  not it is in range, and the journal of the accesses is what is judged (`BufSafe`).
* A variable that was never set is a byte of the bus (`NrfBus.withUnset`), so that a length is
  known if it does not depend on it.
* `NrfBufCall.Fits` is the condition: the lengths an argument or a register gives are at most
  `NRF_MAX_PL`, and the transfers that tell them are made and do not fail.

**Main result.** `nrfBufCall_safe_iff`, for every call, bus and state. The proof goes function by
function, each with the iff of its own (`safe_getAddress_iff` and the others).
-/

namespace Librasp

/-- `NRF_MAX_PL`. -/
def nrfMaxPl : ℕ := 32

/-! ### What is done to the buffers -/

/-- An access to the buffers `tx` and `rx` of a multi-byte transfer, or to the caller's buffer. -/
inductive BufOp
  /-- The command goes to `tx[0]`. -/
  | command
  /-- `memset(&tx[1], 0, n)`. -/
  | clear (n : ℕ)
  /-- `memcpy(&tx[1], pbuf, n)`. -/
  | fill (n : ℕ)
  /-- `spi_transmit` of `n` bytes. -/
  | transfer (n : ℕ)
  /-- `memcpy(pbuf, &rx[1], n)`. -/
  | copy (n : ℕ)
  /-- A byte is stored to the caller's buffer. -/
  | store
  deriving DecidableEq, Repr

namespace BufOp

/-- The indices of `tx` and `rx`. -/
def indices : BufOp → List ℕ
  | command => [0]
  | clear n => List.range' 1 n
  | fill n => List.range' 1 n
  | transfer n => List.range n
  | copy n => List.range' 1 n
  | store => []

/-- The bytes written to the caller's buffer. -/
def copied : BufOp → ℕ
  | copy n => n
  | store => 1
  | _ => 0

/-- The access stays within the buffers. -/
def InRange (op : BufOp) : Prop := (∀ i ∈ op.indices, i < nrfMaxPl + 1) ∧ op.copied ≤ nrfMaxPl

instance (op : BufOp) : Decidable op.InRange := inferInstanceAs (Decidable (_ ∧ _))

theorem forall_range'_iff (n : ℕ) :
    (∀ i ∈ List.range' 1 n, i < nrfMaxPl + 1) ↔ n ≤ nrfMaxPl := by
  constructor
  · intro h
    by_contra hlt
    have hmem : n ∈ List.range' 1 n := List.mem_range'_1.mpr ⟨by omega, by omega⟩
    have hbound := h n hmem
    omega
  · intro h i hi
    have hmem := List.mem_range'_1.mp hi
    omega

theorem inRange_command : InRange command := by decide

theorem inRange_store : InRange store := by decide

theorem inRange_clear_iff (n : ℕ) : InRange (clear n) ↔ n ≤ nrfMaxPl :=
  (and_iff_left (Nat.zero_le _)).trans (forall_range'_iff n)

theorem inRange_fill_iff (n : ℕ) : InRange (fill n) ↔ n ≤ nrfMaxPl :=
  (and_iff_left (Nat.zero_le _)).trans (forall_range'_iff n)

theorem inRange_copy {n : ℕ} (h : n ≤ nrfMaxPl) : InRange (copy n) :=
  ⟨(forall_range'_iff n).mpr h, h⟩

theorem inRange_transfer {n : ℕ} (h : n ≤ nrfMaxPl + 1) : InRange (transfer n) :=
  ⟨fun _ hi => (List.mem_range.mp hi).trans_le h, Nat.zero_le _⟩

end BufOp

/-! ### The functions with their accesses -/

/-- A state with the accesses made. -/
structure BufSt (δ : Type) where
  st : NrfSt δ
  ops : List BufOp

/-- A function of the layer with its accesses. -/
abbrev BufM (δ : Type) (α : Type) := StateM (BufSt δ) α

section Model

variable {δ α : Type} (b : NrfBus δ)

/-- An access is made. -/
def bufOp (op : BufOp) : BufM δ Unit := fun s => ((), { s with ops := s.ops ++ [op] })

/-- A function that has no such buffers. -/
def ofNrf (m : NrfM δ α) : BufM δ α := fun s => ((m s.st).1, { s with st := (m s.st).2 })

/-- A transfer between the buffers, which is not made without a handle. -/
def bufTransmit (tx : List UInt8) : BufM δ (ℕ → UInt8) := do
  if b.opened then bufOp (.transfer tx.length)
  ofNrf (nrfTransmit b tx)

/-- `hal_nrf_write_multibyte_reg`. -/
def bufWriteMultibyteReg (reg : UInt8) (pbuf : ℕ → UInt8) (length : UInt8) : BufM δ Unit := do
  bufOp .command
  bufOp (.fill length.toNat)
  let _ ← bufTransmit b (reg :: (List.range length.toNat).map pbuf)

/-- The transfer of `hal_nrf_read_multibyte_reg`. -/
def bufReadBytes (cmd reg length : UInt8) : BufM δ (UInt16 × List UInt8) := do
  let ret := reg.toUInt16 <<< 8 ||| length.toUInt16
  bufOp .command
  if 0 < length then
    bufOp (.clear length.toNat)
    let rx ← bufTransmit b (cmd :: List.replicate length.toNat 0)
    bufOp (.copy length.toNat)
    return (ret, (List.range length.toNat).map fun i => rx (i + 1))
  else return (ret, [])

/-- `hal_nrf_read_multibyte_reg` once it has the command. -/
def bufReadSized (cmd reg len : UInt8) (width : NrfM δ UInt8) : BufM δ (UInt16 × List UInt8) :=
  if len = 0 then do
    let length ← ofNrf width
    fun s => if s.st.ecomm then ((reg.toUInt16 <<< 8 ||| length.toUInt16, []), s)
      else bufReadBytes b cmd reg length s
  else bufReadBytes b cmd reg len

/-- `hal_nrf_read_multibyte_reg`. -/
def bufReadMultibyteReg (reg len : UInt8) : BufM δ (UInt16 × List UInt8) :=
  if reg = 0 ∨ reg = 1 ∨ reg = 6 then
    bufReadSized b (Nrf.rxAddrP0 + reg) reg len (halNrfGetAddressWidth b)
  else if reg = 8 then do
    let src ← ofNrf (halNrfGetRxDataSource b)
    fun s => if s.st.ecomm then ((src.toUInt16 <<< 8 ||| b.uninit.toUInt16, []), s)
      else if src < 7 then
        bufReadSized b Nrf.rRxPayload src len (halNrfReadRxPayloadWidth b) s
      else ((src.toUInt16 <<< 8, []), s)
  else return (reg.toUInt16 <<< 8, [])

/-- `hal_nrf_get_address`. -/
def bufGetAddress (pipeNum : HalNrfAddress) : BufM δ (UInt8 × List UInt8) :=
  let multibyte : BufM δ (UInt8 × List UInt8) := do
    let r ← bufReadMultibyteReg b pipeNum.code 0
    return (r.1.toUInt8, r.2)
  let single : BufM δ (UInt8 × List UInt8) := do
    let v ← ofNrf (halNrfReadReg b (Nrf.rxAddrP0 + pipeNum.code))
    bufOp .store
    return (1, [v])
  match pipeNum with
  | .tx => multibyte
  | .pipe p => if p < 2 then multibyte else single
  | .all => single

/-- `hal_nrf_set_address`. -/
def bufSetAddress (pipeNum : HalNrfAddress) (addr : ℕ → UInt8) : BufM δ Unit :=
  let multibyte : BufM δ Unit := do
    let width ← ofNrf (halNrfGetAddressWidth b)
    bufWriteMultibyteReg b (Nrf.wRegister + Nrf.rxAddrP0 + pipeNum.code) addr width
  match pipeNum with
  | .tx => multibyte
  | .pipe p =>
    if p < 2 then multibyte else ofNrf (halNrfSetReg b (Nrf.rxAddrP0 + pipeNum.code) (addr 0))
  | .all => pure ()

namespace Nrf

/-- `W_TX_PAYLOAD`. -/
def wTxPayload : UInt8 := 0xa0

/-- `W_TX_PAYLOAD_NOACK`. -/
def wTxPayloadNoack : UInt8 := 0xb0

/-- `W_ACK_PAYLOAD`. -/
def wAckPayload : UInt8 := 0xa8

end Nrf

/-- `hal_nrf_read_rx_payload`: the pipe and the length, and the payload. -/
def halNrfReadRxPayload : NrfM δ (UInt16 × List UInt8) := halNrfReadMultibyteReg b 8 0

/-- `hal_nrf_write_tx_payload`. -/
def halNrfWriteTxPayload (txPload : ℕ → UInt8) (length : UInt8) : NrfM δ Unit :=
  halNrfWriteMultibyteReg b Nrf.wTxPayload txPload length

/-- `hal_nrf_write_tx_payload_noack`. -/
def halNrfWriteTxPayloadNoack (txPload : ℕ → UInt8) (length : UInt8) : NrfM δ Unit :=
  halNrfWriteMultibyteReg b Nrf.wTxPayloadNoack txPload length

/-- `hal_nrf_write_ack_payload`. -/
def halNrfWriteAckPayload (pipeNum : HalNrfAddress) (txPload : ℕ → UInt8) (length : UInt8) :
    NrfM δ Unit :=
  match pipeNum with
  | .pipe _ => halNrfWriteMultibyteReg b (Nrf.wAckPayload ||| pipeNum.code) txPload length
  | _ => pure ()

end Model

/-- A call that uses the buffers. -/
inductive NrfBufCall
  | readRxPayload
  | getAddress (pipeNum : HalNrfAddress)
  | setAddress (pipeNum : HalNrfAddress) (addr : ℕ → UInt8)
  | writeTxPayload (txPload : ℕ → UInt8) (length : UInt8)
  | writeTxPayloadNoack (txPload : ℕ → UInt8) (length : UInt8)
  | writeAckPayload (pipeNum : HalNrfAddress) (txPload : ℕ → UInt8) (length : UInt8)

namespace NrfBufCall

variable {δ : Type} (b : NrfBus δ)

/-- What a call does, and the length it returns, if it returns one. -/
def exec : NrfBufCall → BufM δ (Option UInt8)
  | readRxPayload => do
    let r ← bufReadMultibyteReg b 8 0
    return some r.1.toUInt8
  | getAddress pipeNum => do
    let r ← bufGetAddress b pipeNum
    return some r.1
  | setAddress pipeNum addr => do
    bufSetAddress b pipeNum addr
    return none
  | writeTxPayload txPload length => do
    bufWriteMultibyteReg b Nrf.wTxPayload txPload length
    return none
  | writeTxPayloadNoack txPload length => do
    bufWriteMultibyteReg b Nrf.wTxPayloadNoack txPload length
    return none
  | writeAckPayload pipeNum txPload length => do
    match pipeNum with
    | .pipe _ => bufWriteMultibyteReg b (Nrf.wAckPayload ||| pipeNum.code) txPload length
    | _ => pure ()
    return none

/-- The same without the accesses. -/
def run : NrfBufCall → NrfM δ (Option UInt8)
  | readRxPayload => do
    let r ← halNrfReadRxPayload b
    return some r.1.toUInt8
  | getAddress pipeNum => do
    let r ← halNrfGetAddress b pipeNum
    return some r.1
  | setAddress pipeNum addr => do
    halNrfSetAddress b pipeNum addr
    return none
  | writeTxPayload txPload length => do
    halNrfWriteTxPayload b txPload length
    return none
  | writeTxPayloadNoack txPload length => do
    halNrfWriteTxPayloadNoack b txPload length
    return none
  | writeAckPayload pipeNum txPload length => do
    halNrfWriteAckPayload b pipeNum txPload length
    return none

end NrfBufCall

/-! ### The accesses left out -/

section Erase

variable {δ α β : Type}

/-- A function with its accesses returns what the function returns, and leaves the state that it
leaves. -/
def Erases (m : BufM δ α) (m' : NrfM δ α) : Prop :=
  ∀ s, (m s).1 = (m' s.st).1 ∧ (m s).2.st = (m' s.st).2

theorem erases_pure (a : α) : Erases (pure a : BufM δ α) (pure a) := fun _ => ⟨rfl, rfl⟩

theorem erases_ofNrf (m : NrfM δ α) : Erases (ofNrf m) m := fun _ => ⟨rfl, rfl⟩

theorem Erases.bind {m : BufM δ α} {m' : NrfM δ α} {f : α → BufM δ β} {f' : α → NrfM δ β}
    (hm : Erases m m') (hf : ∀ a, Erases (f a) (f' a)) : Erases (m >>= f) (m' >>= f') := by
  intro s
  obtain ⟨hval, hst⟩ := hm s
  have hboth := hf (m s).1 (m s).2
  rw [hst] at hboth
  show ((f (m s).1) (m s).2).1 = ((f' (m' s.st).1) (m' s.st).2).1 ∧
    ((f (m s).1) (m s).2).2.st = ((f' (m' s.st).1) (m' s.st).2).2
  rw [← hval]
  exact hboth

/-- An access makes no difference. -/
theorem Erases.op {m : BufM δ α} {m' : NrfM δ α} (h : Erases m m') (op : BufOp) :
    Erases (bufOp op >>= fun _ => m) m' := fun s => h ⟨s.st, s.ops ++ [op]⟩

/-- The check of the error. -/
theorem Erases.chk {m : BufM δ α} {m' : NrfM δ α} (h : Erases m m') (a : α) :
    Erases (fun s => if s.st.ecomm then (a, s) else m s)
      fun s => if s.ecomm then (a, s) else m' s := by
  intro s
  dsimp only
  split_ifs
  · exact ⟨rfl, rfl⟩
  · exact h s

variable (b : NrfBus δ)

theorem erases_transmit (tx : List UInt8) : Erases (bufTransmit b tx) (nrfTransmit b tx) := by
  rw [bufTransmit]
  split_ifs
  · exact (erases_ofNrf _).op _
  · exact erases_ofNrf _

theorem erases_writeMultibyteReg (reg : UInt8) (pbuf : ℕ → UInt8) (length : UInt8) :
    Erases (bufWriteMultibyteReg b reg pbuf length) (halNrfWriteMultibyteReg b reg pbuf length) :=
  (((erases_transmit b _).bind fun _ => erases_pure ()).op _).op _

theorem erases_readBytes (cmd reg length : UInt8) :
    Erases (bufReadBytes b cmd reg length) (halNrfReadBytes b cmd reg length) := by
  refine Erases.op ?_ _
  rw [halNrfReadBytes]
  split_ifs
  · exact Erases.op ((erases_transmit b _).bind fun _ => (erases_pure _).op _) _
  · exact erases_pure _

theorem erases_readSized (cmd reg len : UInt8) (width : NrfM δ UInt8) :
    Erases (bufReadSized b cmd reg len width) (halNrfReadSized b cmd reg len width) := by
  rw [bufReadSized, halNrfReadSized]
  split_ifs
  · exact (erases_ofNrf width).bind fun _ => (erases_readBytes b cmd reg _).chk _
  · exact erases_readBytes b cmd reg len

theorem erases_readMultibyteReg (reg len : UInt8) :
    Erases (bufReadMultibyteReg b reg len) (halNrfReadMultibyteReg b reg len) := by
  rw [bufReadMultibyteReg, halNrfReadMultibyteReg]
  split_ifs
  · exact erases_readSized b _ reg len _
  · refine (erases_ofNrf _).bind fun src => ?_
    have hsrc : Erases (fun s => if src < 7 then
        bufReadSized b Nrf.rRxPayload src len (halNrfReadRxPayloadWidth b) s
        else ((src.toUInt16 <<< 8, []), s)) fun s => if src < 7 then
        halNrfReadSized b Nrf.rRxPayload src len (halNrfReadRxPayloadWidth b) s
        else ((src.toUInt16 <<< 8, []), s) := by
      split_ifs
      · exact erases_readSized b _ src len _
      · exact erases_pure _
    exact hsrc.chk _
  · exact erases_pure _

theorem erases_getAddress (pipeNum : HalNrfAddress) :
    Erases (bufGetAddress b pipeNum) (halNrfGetAddress b pipeNum) := by
  have hmulti : Erases (bufReadMultibyteReg b pipeNum.code 0 >>= fun r =>
      (pure (r.1.toUInt8, r.2) : BufM δ (UInt8 × List UInt8)))
      (halNrfReadMultibyteReg b pipeNum.code 0 >>= fun r => pure (r.1.toUInt8, r.2)) :=
    (erases_readMultibyteReg b _ _).bind fun _ => erases_pure _
  have hsingle : Erases (ofNrf (halNrfReadReg b (Nrf.rxAddrP0 + pipeNum.code)) >>= fun v =>
      bufOp .store >>= fun _ => (pure (1, [v]) : BufM δ (UInt8 × List UInt8)))
      (halNrfReadReg b (Nrf.rxAddrP0 + pipeNum.code) >>= fun v => pure (1, [v])) :=
    (erases_ofNrf _).bind fun _ => (erases_pure _).op _
  rcases pipeNum with p | _ | _
  · rw [bufGetAddress, halNrfGetAddress]
    split_ifs
    · exact hmulti
    · exact hsingle
  · exact hmulti
  · exact hsingle

theorem erases_setAddress (pipeNum : HalNrfAddress) (addr : ℕ → UInt8) :
    Erases (bufSetAddress b pipeNum addr) (halNrfSetAddress b pipeNum addr) := by
  have hmulti : Erases (ofNrf (halNrfGetAddressWidth b) >>= fun width =>
      bufWriteMultibyteReg b (Nrf.wRegister + Nrf.rxAddrP0 + pipeNum.code) addr width)
      (halNrfGetAddressWidth b >>= fun width =>
        halNrfWriteMultibyteReg b (Nrf.wRegister + Nrf.rxAddrP0 + pipeNum.code) addr width) :=
    (erases_ofNrf _).bind fun _ => erases_writeMultibyteReg b _ _ _
  rcases pipeNum with p | _ | _
  · rw [bufSetAddress, halNrfSetAddress]
    split_ifs
    · exact hmulti
    · exact erases_ofNrf _
  · exact hmulti
  · exact erases_pure ()

/-- Without the accesses a call is the call of the model: it returns the same and leaves the same
state. So the accesses are those of the functions the other results are about. -/
theorem erases_exec (c : NrfBufCall) : Erases (c.exec b) (c.run b) := by
  cases c with
  | readRxPayload => exact (erases_readMultibyteReg b _ _).bind fun _ => erases_pure _
  | getAddress pipeNum => exact (erases_getAddress b pipeNum).bind fun _ => erases_pure _
  | setAddress pipeNum addr => exact (erases_setAddress b pipeNum addr).bind fun _ => erases_pure _
  | writeTxPayload txPload length =>
    exact (erases_writeMultibyteReg b _ _ _).bind fun _ => erases_pure _
  | writeTxPayloadNoack txPload length =>
    exact (erases_writeMultibyteReg b _ _ _).bind fun _ => erases_pure _
  | writeAckPayload pipeNum txPload length =>
    rcases pipeNum with p | _ | _
    · exact (erases_writeMultibyteReg b _ _ _).bind fun _ => erases_pure _
    · exact erases_pure _
    · exact erases_pure _

end Erase

/-! ### Calls that are safe -/

section Safe

variable {δ : Type}

/-- The same bus, with other contents of the memory that is never set. -/
def NrfBus.withUnset (b : NrfBus δ) (garbage : ℕ → ℕ → UInt8) (uninit : UInt8) : NrfBus δ :=
  { b with garbage := garbage, uninit := uninit }

/-- A call stays within the buffers, and the length that it returns is that of the call: what memory
held that was never set makes no difference. -/
structure BufSafe (b : NrfBus δ) (c : NrfBufCall) (s : NrfSt δ) : Prop where
  inRange : ∀ g u, ∀ op ∈ (c.exec (b.withUnset g u) ⟨s, []⟩).2.ops, op.InRange
  determined : ∀ g u g' u',
    (c.exec (b.withUnset g u) ⟨s, []⟩).1 = (c.exec (b.withUnset g' u') ⟨s, []⟩).1

/-- A transfer is made, and does not fail. -/
def NrfBus.Works (b : NrfBus δ) (n : ℕ) : Prop := b.opened = true ∧ b.fails n = false

/-- The width of the addresses can be read, and fits the buffers. -/
def NrfBus.WidthFits (b : NrfBus δ) (s : NrfSt δ) : Prop :=
  b.Works s.n ∧ ((b.answer s.dev [Nrf.setupAw, 0]).1 1 + 2).toNat ≤ nrfMaxPl

/-- A payload is there, as `STATUS` tells. -/
def NrfBus.HasPayload (b : NrfBus δ) (s : NrfSt δ) : Prop :=
  ((b.answer s.dev [Nrf.nop]).1 0 &&& 0x0e) >>> 1 < 7

/-- The width of the payload, once `STATUS` is read. -/
def NrfBus.payloadWidth (b : NrfBus δ) (s : NrfSt δ) : UInt8 :=
  (b.answer (b.answer s.dev [Nrf.nop]).2 [Nrf.rRxPlWid, 0]).1 1

/-- The lengths that a call meets fit the buffers, and the transfers that tell them work. -/
def NrfBufCall.Fits (b : NrfBus δ) (s : NrfSt δ) : NrfBufCall → Prop
  | readRxPayload => b.Works s.n ∧
      (b.HasPayload s → b.Works (s.n + 1) ∧ (b.payloadWidth s).toNat ≤ nrfMaxPl)
  | getAddress pipeNum => pipeNum.multibyte = true → b.WidthFits s
  | setAddress pipeNum _ => pipeNum.multibyte = true → b.WidthFits s
  | writeTxPayload _ length => length.toNat ≤ nrfMaxPl
  | writeTxPayloadNoack _ length => length.toNat ≤ nrfMaxPl
  | writeAckPayload pipeNum _ length => (∃ p, pipeNum = .pipe p) → length.toNat ≤ nrfMaxPl

section Parts

variable {b : NrfBus δ} {s : NrfSt δ}

theorem transmit_works (h : b.Works s.n) (tx : List UInt8) :
    nrfTransmit b tx s = ((b.answer s.dev tx).1,
      ⟨(b.answer s.dev tx).2, s.n + 1, false, s.sent ++ [tx]⟩) :=
  nrfTransmit_ok h.1 h.2 tx

/-- A transfer that does not work leaves what was in the buffer. -/
theorem transmit_broken (h : ¬ b.Works s.n) (tx : List UInt8) :
    (nrfTransmit b tx s).1 = b.garbage s.n ∧ (nrfTransmit b tx s).2.ecomm = true := by
  rcases hb : b.opened with _ | _
  · rw [nrfTransmit_closed hb]
    exact ⟨rfl, rfl⟩
  · rcases hf : b.fails s.n with _ | _
    · exact absurd ⟨hb, hf⟩ h
    · rw [nrfTransmit_fails hb hf]
      exact ⟨rfl, rfl⟩

theorem ops_transmit (b : NrfBus δ) (tx : List UInt8) (t : BufSt δ) :
    (bufTransmit b tx t).2.ops = t.ops ++ if b.opened then [.transfer tx.length] else [] := by
  rw [bufTransmit]
  split_ifs
  · rfl
  · exact (List.append_nil _).symm

/-- The command is put in front of a number of bytes, and all of it is transferred. -/
theorem inRange_transfer_iff (opened : Bool) {op : BufOp} {length : ℕ}
    (hop : op.InRange ↔ length ≤ nrfMaxPl) :
    (∀ x ∈ [.command, op] ++ if opened then [.transfer (length + 1)] else [], x.InRange) ↔
      length ≤ nrfMaxPl := by
  rw [List.forall_mem_append, List.forall_mem_cons, List.forall_mem_singleton, hop]
  constructor
  · rintro ⟨⟨-, h⟩, -⟩
    exact h
  · refine fun h => ⟨⟨BufOp.inRange_command, h⟩, fun x hx => ?_⟩
    split_ifs at hx
    · obtain rfl := List.mem_singleton.mp hx
      exact BufOp.inRange_transfer (Nat.succ_le_succ h)
    · exact absurd hx List.not_mem_nil

/-- Writing stays within the buffer exactly if the length does. -/
theorem inRange_write_iff (b : NrfBus δ) (reg : UInt8) (pbuf : ℕ → UInt8) (length : UInt8)
    (s : NrfSt δ) :
    (∀ op ∈ (bufWriteMultibyteReg b reg pbuf length ⟨s, []⟩).2.ops, op.InRange) ↔
      length.toNat ≤ nrfMaxPl := by
  have hops : (bufWriteMultibyteReg b reg pbuf length ⟨s, []⟩).2.ops =
      [.command, .fill length.toNat] ++
        if b.opened then [.transfer (length.toNat + 1)] else [] := by
    refine (ops_transmit b _ ⟨s, [.command, .fill length.toNat]⟩).trans ?_
    rw [List.length_cons, List.length_map, List.length_range]
  rw [hops]
  exact inRange_transfer_iff b.opened (BufOp.inRange_fill_iff _)

/-- Reading a number of bytes stays within the buffers exactly if the number does. -/
theorem inRange_readBytes_iff (b : NrfBus δ) (cmd reg length : UInt8) (s : NrfSt δ) :
    (∀ op ∈ (bufReadBytes b cmd reg length ⟨s, []⟩).2.ops, op.InRange) ↔
      length.toNat ≤ nrfMaxPl := by
  by_cases hlen : 0 < length
  · have hops : (bufReadBytes b cmd reg length ⟨s, []⟩).2.ops =
        ([.command, .clear length.toNat] ++
          if b.opened then [.transfer (length.toNat + 1)] else []) ++ [.copy length.toNat] := by
      have htx := ops_transmit b (cmd :: List.replicate length.toNat 0)
        ⟨s, [.command, .clear length.toNat]⟩
      rw [List.length_cons, List.length_replicate] at htx
      rw [← htx, bufReadBytes, if_pos hlen]
      rfl
    rw [hops, List.forall_mem_append, List.forall_mem_singleton,
      inRange_transfer_iff b.opened (BufOp.inRange_clear_iff _)]
    exact and_iff_left_of_imp BufOp.inRange_copy
  · have hops : (bufReadBytes b cmd reg length ⟨s, []⟩).2.ops = [.command] := by
      rw [bufReadBytes, if_neg hlen]
      rfl
    have h0 : length.toNat = 0 := Nat.eq_zero_of_not_pos hlen
    rw [hops, h0, List.forall_mem_singleton]
    exact iff_of_true BufOp.inRange_command (Nat.zero_le _)

/-- The low byte of what is returned is the length. -/
theorem toUInt8_or_shiftLeft (x y : UInt8) : (x.toUInt16 <<< 8 ||| y.toUInt16).toUInt8 = y := by
  refine UInt8.toBitVec_inj.mp (BitVec.eq_of_getLsbD_eq fun i hi => ?_)
  simp [hi]

theorem fst_readBytes (b : NrfBus δ) (cmd reg length : UInt8) (t : BufSt δ) :
    (bufReadBytes b cmd reg length t).1.1 = reg.toUInt16 <<< 8 ||| length.toUInt16 := by
  rw [bufReadBytes]
  split_ifs
  · rfl
  · rfl

/-- Reading, once the length is asked for: it is not known if the transfer does not work. -/
theorem readSized_broken {cmd reg : UInt8} {width : NrfM δ UInt8} (t : BufSt δ)
    (h : (width t.st).2.ecomm = true) : bufReadSized b cmd reg 0 width t =
      ((reg.toUInt16 <<< 8 ||| (width t.st).1.toUInt16, []), ⟨(width t.st).2, t.ops⟩) := by
  rw [bufReadSized, if_pos rfl]
  exact if_pos h

theorem readSized_works {cmd reg : UInt8} {width : NrfM δ UInt8} (t : BufSt δ)
    (h : (width t.st).2.ecomm = false) : bufReadSized b cmd reg 0 width t =
      bufReadBytes b cmd reg (width t.st).1 ⟨(width t.st).2, t.ops⟩ := by
  rw [bufReadSized, if_pos rfl]
  exact if_neg (by rw [h]; exact Bool.false_ne_true)

/-- A register is read; if the transfer does not work, what was in the buffer is told. -/
theorem readReg_works (h : b.Works s.n) (reg : UInt8) :
    halNrfReadReg b reg s = ((b.answer s.dev [reg, 0]).1 1,
      ⟨(b.answer s.dev [reg, 0]).2, s.n + 1, false, s.sent ++ [[reg, 0]]⟩) := by
  show ((nrfTransmit b [reg, 0] s).1 1, (nrfTransmit b [reg, 0] s).2) = _
  rw [transmit_works h]

theorem readReg_broken (h : ¬ b.Works s.n) (reg : UInt8) :
    (halNrfReadReg b reg s).1 = b.garbage s.n 1 ∧ (halNrfReadReg b reg s).2.ecomm = true := by
  obtain ⟨hrx, herr⟩ := transmit_broken h [reg, 0]
  exact ⟨congrFun hrx 1, herr⟩

end Parts

section Calls

variable (b : NrfBus δ) (s : NrfSt δ)

/-- A call that reads a number of bytes, and returns it. -/
theorem safe_readBytes_iff {b : NrfBus δ} {s s' : NrfSt δ} {c : NrfBufCall}
    {cmd reg length : UInt8} (h : ∀ g u, c.exec (b.withUnset g u) ⟨s, []⟩ =
      (some (bufReadBytes (b.withUnset g u) cmd reg length ⟨s', []⟩).1.1.toUInt8,
        (bufReadBytes (b.withUnset g u) cmd reg length ⟨s', []⟩).2)) :
    BufSafe b c s ↔ length.toNat ≤ nrfMaxPl := by
  constructor
  · intro hsafe
    have hops := hsafe.inRange b.garbage b.uninit
    rw [h] at hops
    exact (inRange_readBytes_iff _ cmd reg length s').mp hops
  · intro hfit
    refine ⟨fun g u => ?_, fun g u g' u' => ?_⟩
    · rw [h]
      exact (inRange_readBytes_iff _ cmd reg length s').mpr hfit
    · rw [h, h]
      dsimp only
      rw [fst_readBytes, fst_readBytes]

/-- A call that returns what memory held that was never set. -/
theorem not_safe_of_unset {b : NrfBus δ} {s : NrfSt δ} {c : NrfBufCall}
    {f : (ℕ → ℕ → UInt8) → UInt8 → UInt8} (h : ∀ g u, (c.exec (b.withUnset g u) ⟨s, []⟩).1 =
      some (f g u)) (hf : f (fun _ _ => 0) 0 ≠ f (fun _ _ => 1) 1) : ¬ BufSafe b c s := by
  intro hsafe
  have hdet := hsafe.determined (fun _ _ => 0) 0 (fun _ _ => 1) 1
  rw [h, h] at hdet
  exact hf (Option.some.inj hdet)

/-- A call that asks a register for a number of bytes, reads these, and returns the number: the
transfer that asks must work, or the number is what memory held, and what it tells must fit. -/
theorem safe_readSized_iff {b : NrfBus δ} {s s₁ : NrfSt δ} {c : NrfBufCall}
    {cmd src reg : UInt8} {f : UInt8 → UInt8} {width : NrfBus δ → NrfM δ UInt8}
    (hf : f 0 ≠ f 1)
    (hwidth : ∀ b s, width b s = (f (halNrfReadReg b reg s).1, (halNrfReadReg b reg s).2))
    (h : ∀ g u, c.exec (b.withUnset g u) ⟨s, []⟩ =
      let r := bufReadSized (b.withUnset g u) cmd src 0 (width (b.withUnset g u)) ⟨s₁, []⟩
      (some r.1.1.toUInt8, r.2)) :
    BufSafe b c s ↔
      b.Works s₁.n ∧ (f ((b.answer s₁.dev [reg, 0]).1 1)).toNat ≤ nrfMaxPl := by
  by_cases hw : b.Works s₁.n
  · -- the number is what the transceiver tells
    have hread : ∀ g u, c.exec (b.withUnset g u) ⟨s, []⟩ =
        let r := bufReadBytes (b.withUnset g u) cmd src (f ((b.answer s₁.dev [reg, 0]).1 1))
          ⟨⟨(b.answer s₁.dev [reg, 0]).2, s₁.n + 1, false, s₁.sent ++ [[reg, 0]]⟩, []⟩
        (some r.1.1.toUInt8, r.2) := by
      intro g u
      have htold := hwidth (b.withUnset g u) s₁
      rw [readReg_works (show (b.withUnset g u).Works s₁.n from hw)] at htold
      rw [h, readSized_works ⟨s₁, []⟩ (by rw [htold]), htold]
      rfl
    exact (safe_readBytes_iff hread).trans (and_iff_right hw).symm
  · -- the number is what was in the buffer
    refine iff_of_false (not_safe_of_unset (f := fun g _ => f (g s₁.n 1)) (fun g u => ?_) hf)
      fun hfit => hw hfit.1
    obtain ⟨hgarbage, herr⟩ := readReg_broken (b := b.withUnset g u) hw reg
    have htold := hwidth (b.withUnset g u) s₁
    rw [h, readSized_broken ⟨s₁, []⟩ (by rw [htold]; exact herr)]
    dsimp only
    rw [toUInt8_or_shiftLeft, htold, hgarbage]
    rfl

/-- What an address of several bytes is read by. -/
theorem exec_getAddress {pipeNum : HalNrfAddress} (h : pipeNum.multibyte = true) :
    (NrfBufCall.getAddress pipeNum).exec b ⟨s, []⟩ =
      let r := bufReadSized b (Nrf.rxAddrP0 + pipeNum.code) pipeNum.code 0
        (halNrfGetAddressWidth b) ⟨s, []⟩
      (some r.1.1.toUInt8, r.2) := by
  have hcode : pipeNum.code = 0 ∨ pipeNum.code = 1 ∨ pipeNum.code = 6 := by
    rcases pipeNum with p | _ | _
    · have hp : p < 2 := of_decide_eq_true h
      obtain rfl | rfl : p = 0 ∨ p = 1 := by omega
      · exact Or.inl rfl
      · exact Or.inr (Or.inl rfl)
    · exact Or.inr (Or.inr rfl)
    · exact Bool.noConfusion h
  have hread : bufReadMultibyteReg b pipeNum.code 0 = bufReadSized b (Nrf.rxAddrP0 + pipeNum.code)
      pipeNum.code 0 (halNrfGetAddressWidth b) := by
    rw [bufReadMultibyteReg, if_pos hcode]
  rw [← hread]
  rcases pipeNum with p | _ | _
  · have hp : p < 2 := of_decide_eq_true h
    rw [NrfBufCall.exec, bufGetAddress, if_pos hp]
    rfl
  · rfl
  · exact Bool.noConfusion h

/-- Reading an address of several bytes. -/
theorem safe_getAddress_iff {pipeNum : HalNrfAddress} (h : pipeNum.multibyte = true) :
    BufSafe b (.getAddress pipeNum) s ↔ b.WidthFits s :=
  safe_readSized_iff (f := (· + 2)) (by decide) (fun _ _ => rfl)
    fun g u => exec_getAddress (b.withUnset g u) s h

/-- Writing an address of several bytes. -/
theorem safe_setAddress_iff {pipeNum : HalNrfAddress} (h : pipeNum.multibyte = true)
    (addr : ℕ → UInt8) : BufSafe b (.setAddress pipeNum addr) s ↔ b.WidthFits s := by
  have hexec : ∀ b : NrfBus δ, ((NrfBufCall.setAddress pipeNum addr).exec b ⟨s, []⟩).2.ops =
      (bufWriteMultibyteReg b (Nrf.wRegister + Nrf.rxAddrP0 + pipeNum.code) addr
        (halNrfGetAddressWidth b s).1 ⟨(halNrfGetAddressWidth b s).2, []⟩).2.ops := by
    intro b
    rcases pipeNum with p | _ | _
    · have hp : p < 2 := of_decide_eq_true h
      rw [NrfBufCall.exec, bufSetAddress, if_pos hp]
      rfl
    · rfl
    · exact Bool.noConfusion h
  have hops : ∀ g u, (∀ op ∈ ((NrfBufCall.setAddress pipeNum addr).exec (b.withUnset g u)
      ⟨s, []⟩).2.ops, op.InRange) ↔
        ((halNrfReadReg (b.withUnset g u) Nrf.setupAw s).1 + 2).toNat ≤ nrfMaxPl := by
    intro g u
    rw [hexec]
    exact inRange_write_iff _ _ addr _ _
  by_cases hw : b.Works s.n
  · have hread : ∀ g u, (halNrfReadReg (b.withUnset g u) Nrf.setupAw s).1 =
        (b.answer s.dev [Nrf.setupAw, 0]).1 1 := by
      intro g u
      rw [readReg_works (show (b.withUnset g u).Works s.n from hw)]
      rfl
    constructor
    · intro hsafe
      have hfit := (hops b.garbage b.uninit).mp (hsafe.inRange b.garbage b.uninit)
      rw [hread] at hfit
      exact ⟨hw, hfit⟩
    · rintro ⟨-, hfit⟩
      exact ⟨fun g u => (hops g u).mpr (by rwa [hread]), fun _ _ _ _ => rfl⟩
  · refine iff_of_false (fun hsafe => ?_) fun hfit => hw hfit.1
    -- a width of 33 in the buffer
    have hfit := (hops (fun _ _ => 31) 0).mp (hsafe.inRange _ _)
    rw [(readReg_broken (b := b.withUnset (fun _ _ => 31) 0) hw Nrf.setupAw).1] at hfit
    exact absurd hfit (show ¬ ((31 : UInt8) + 2).toNat ≤ nrfMaxPl by decide)

/-- Writing a payload. -/
theorem safe_write_iff {c : NrfBufCall} {reg length : UInt8} {pbuf : ℕ → UInt8}
    (h : ∀ b : NrfBus δ, c.exec b ⟨s, []⟩ =
      (none, (bufWriteMultibyteReg b reg pbuf length ⟨s, []⟩).2)) :
    BufSafe b c s ↔ length.toNat ≤ nrfMaxPl := by
  constructor
  · intro hsafe
    have hops := hsafe.inRange b.garbage b.uninit
    rw [h] at hops
    exact (inRange_write_iff _ reg pbuf length s).mp hops
  · intro hfit
    refine ⟨fun g u => ?_, fun g u g' u' => ?_⟩
    · rw [h]
      exact (inRange_write_iff _ reg pbuf length s).mpr hfit
    · rw [h, h]

/-- A call that does nothing to the buffers of a multi-byte transfer. -/
theorem safe_of_ops {c : NrfBufCall} {r : Option UInt8}
    (hval : ∀ g u, (c.exec (b.withUnset g u) ⟨s, []⟩).1 = r)
    (hops : ∀ g u, ∀ op ∈ (c.exec (b.withUnset g u) ⟨s, []⟩).2.ops, op = .store) :
    BufSafe b c s := by
  refine ⟨fun g u op hop => ?_, fun g u g' u' => (hval g u).trans (hval g' u').symm⟩
  rw [hops g u op hop]
  exact BufOp.inRange_store

/-- `hal_nrf_read_rx_payload` once `STATUS` is asked for. -/
theorem exec_readRxPayload : NrfBufCall.readRxPayload.exec b ⟨s, []⟩ =
    let src := (halNrfGetRxDataSource b s).1
    let t : BufSt δ := ⟨(halNrfGetRxDataSource b s).2, []⟩
    let r := if t.st.ecomm then ((src.toUInt16 <<< 8 ||| b.uninit.toUInt16, []), t)
      else if src < 7 then
        bufReadSized b Nrf.rRxPayload src 0 (halNrfReadRxPayloadWidth b) t
      else ((src.toUInt16 <<< 8, []), t)
    (some r.1.1.toUInt8, r.2) := by
  rw [NrfBufCall.exec, bufReadMultibyteReg, if_neg (by decide), if_pos rfl]
  rfl

theorem dataSource_works (h : b.Works s.n) : halNrfGetRxDataSource b s =
    (((b.answer s.dev [Nrf.nop]).1 0 &&& 0x0e) >>> 1,
      ⟨(b.answer s.dev [Nrf.nop]).2, s.n + 1, false, s.sent ++ [[Nrf.nop]]⟩) := by
  show (((nrfTransmit b [Nrf.nop] s).1 0 &&& 0x0e) >>> 1, (nrfTransmit b [Nrf.nop] s).2) = _
  rw [transmit_works h]

/-- Reading a payload, if `STATUS` cannot be read: the length is never set. -/
theorem safe_readRxPayload_of_broken (h : ¬ b.Works s.n) : ¬ BufSafe b .readRxPayload s := by
  refine not_safe_of_unset (f := fun _ u => u) (fun g u => ?_) (by decide)
  have herr : (halNrfGetRxDataSource (b.withUnset g u) s).2.ecomm = true :=
    (transmit_broken (b := b.withUnset g u) h [Nrf.nop]).2
  rw [exec_readRxPayload]
  dsimp only
  rw [if_pos herr, toUInt8_or_shiftLeft]
  rfl

/-- Reading a payload, if there is one. -/
theorem safe_readRxPayload_of_payload (h : b.Works s.n) (hpayload : b.HasPayload s) :
    BufSafe b .readRxPayload s ↔
      b.Works (s.n + 1) ∧ (b.payloadWidth s).toNat ≤ nrfMaxPl := by
  obtain ⟨src, hsrc⟩ : ∃ src, src = ((b.answer s.dev [Nrf.nop]).1 0 &&& 0x0e) >>> 1 := ⟨_, rfl⟩
  obtain ⟨s₁, hs₁⟩ : ∃ s₁ : NrfSt δ, s₁ =
    ⟨(b.answer s.dev [Nrf.nop]).2, s.n + 1, false, s.sent ++ [[Nrf.nop]]⟩ := ⟨_, rfl⟩
  have hn : s₁.n = s.n + 1 := by rw [hs₁]
  have hwidth : b.payloadWidth s = (b.answer s₁.dev [Nrf.rRxPlWid, 0]).1 1 := by rw [hs₁]; rfl
  have hexec : ∀ g u, NrfBufCall.readRxPayload.exec (b.withUnset g u) ⟨s, []⟩ =
      let r := bufReadSized (b.withUnset g u) Nrf.rRxPayload src 0
        (halNrfReadRxPayloadWidth (b.withUnset g u)) ⟨s₁, []⟩
      (some r.1.1.toUInt8, r.2) := by
    intro g u
    have hstatus : halNrfGetRxDataSource (b.withUnset g u) s = (src, s₁) := by
      rw [hsrc, hs₁]
      exact dataSource_works (b.withUnset g u) s h
    have hok : ¬ s₁.ecomm = true := by
      rw [hs₁]
      exact Bool.false_ne_true
    have hlt : src < 7 := by
      rw [hsrc]
      exact hpayload
    rw [exec_readRxPayload, hstatus]
    dsimp only
    rw [if_neg hok, if_pos hlt]
  rw [← hn, hwidth]
  exact safe_readSized_iff (f := id) (by decide) (fun _ _ => rfl) hexec

/-- Reading a payload, if there is none: no bytes are read. -/
theorem safe_readRxPayload_of_none (h : b.Works s.n) (hpayload : ¬ b.HasPayload s) :
    BufSafe b .readRxPayload s := by
  obtain ⟨src, hsrc⟩ : ∃ src, src = ((b.answer s.dev [Nrf.nop]).1 0 &&& 0x0e) >>> 1 := ⟨_, rfl⟩
  have hlt : ¬ src < 7 := by
    rw [hsrc]
    exact hpayload
  have hexec : ∀ g u, NrfBufCall.readRxPayload.exec (b.withUnset g u) ⟨s, []⟩ =
      (some (src.toUInt16 <<< 8).toUInt8,
        ⟨⟨(b.answer s.dev [Nrf.nop]).2, s.n + 1, false, s.sent ++ [[Nrf.nop]]⟩, []⟩) := by
    intro g u
    have hstatus : halNrfGetRxDataSource (b.withUnset g u) s =
        (src, ⟨(b.answer s.dev [Nrf.nop]).2, s.n + 1, false, s.sent ++ [[Nrf.nop]]⟩) := by
      rw [hsrc]
      exact dataSource_works (b.withUnset g u) s h
    rw [exec_readRxPayload, hstatus]
    dsimp only
    rw [if_neg Bool.false_ne_true, if_neg hlt]
  refine safe_of_ops b s (fun g u => by rw [hexec]) fun g u op hop => ?_
  rw [hexec] at hop
  exact absurd hop List.not_mem_nil

/-- Reading a payload. -/
theorem safe_readRxPayload_iff :
    BufSafe b .readRxPayload s ↔ NrfBufCall.readRxPayload.Fits b s := by
  by_cases hw : b.Works s.n
  · by_cases hpayload : b.HasPayload s
    · rw [safe_readRxPayload_of_payload b s hw hpayload]
      exact ⟨fun h => ⟨hw, fun _ => h⟩, fun h => h.2 hpayload⟩
    · exact iff_of_true (safe_readRxPayload_of_none b s hw hpayload)
        ⟨hw, fun h => absurd h hpayload⟩
  · exact iff_of_false (safe_readRxPayload_of_broken b s hw) fun h => hw h.1

end Calls

/-- **Buffers.** A call stays within the buffers of `NRF_MAX_PL` bytes and a command, copies at most
`NRF_MAX_PL` bytes to the caller, and returns a length that it knows, exactly if the lengths it
meets are at most `NRF_MAX_PL` and the transfers that tell them work. -/
theorem nrfBufCall_safe_iff (b : NrfBus δ) (c : NrfBufCall) (s : NrfSt δ) :
    BufSafe b c s ↔ c.Fits b s := by
  cases c with
  | readRxPayload => exact safe_readRxPayload_iff b s
  | getAddress pipeNum =>
    by_cases hsel : pipeNum.multibyte = true
    · exact (safe_getAddress_iff b s hsel).trans ⟨fun h _ => h, fun h => h hsel⟩
    · have hexec : ∀ b : NrfBus δ, (NrfBufCall.getAddress pipeNum).exec b ⟨s, []⟩ = (some 1,
          ⟨(halNrfReadReg b (Nrf.rxAddrP0 + pipeNum.code) s).2, [.store]⟩) := by
        intro b
        rcases pipeNum with p | _ | _
        · have hp : ¬ p < 2 := fun hp => hsel (decide_eq_true hp)
          rw [NrfBufCall.exec, bufGetAddress, if_neg hp]
          rfl
        · exact absurd rfl hsel
        · rfl
      refine iff_of_true (safe_of_ops b s (fun g u => by rw [hexec]) fun g u op hop => ?_)
        fun h => absurd h hsel
      rw [hexec] at hop
      exact List.mem_singleton.mp hop
  | setAddress pipeNum addr =>
    by_cases hsel : pipeNum.multibyte = true
    · exact (safe_setAddress_iff b s hsel addr).trans ⟨fun h _ => h, fun h => h hsel⟩
    · have hops : ∀ b : NrfBus δ,
          ((NrfBufCall.setAddress pipeNum addr).exec b ⟨s, []⟩).2.ops = [] := by
        intro b
        rcases pipeNum with p | _ | _
        · have hp : ¬ p < 2 := fun hp => hsel (decide_eq_true hp)
          rw [NrfBufCall.exec, bufSetAddress, if_neg hp]
          rfl
        · exact absurd rfl hsel
        · rfl
      refine iff_of_true (safe_of_ops b s (fun _ _ => rfl) fun g u op hop => ?_)
        fun h => absurd h hsel
      rw [hops] at hop
      exact absurd hop List.not_mem_nil
  | writeTxPayload txPload length => exact safe_write_iff b s fun _ => rfl
  | writeTxPayloadNoack txPload length => exact safe_write_iff b s fun _ => rfl
  | writeAckPayload pipeNum txPload length =>
    rcases pipeNum with p | _ | _
    · exact (safe_write_iff b s fun _ => rfl).trans ⟨fun h _ => h, fun h => h ⟨p, rfl⟩⟩
    · refine iff_of_true (safe_of_ops b s (fun _ _ => rfl) fun g u op hop => ?_) ?_
      · exact absurd hop List.not_mem_nil
      · rintro ⟨p, hp⟩
        exact HalNrfAddress.noConfusion hp
    · refine iff_of_true (safe_of_ops b s (fun _ _ => rfl) fun g u op hop => ?_) ?_
      · exact absurd hop List.not_mem_nil
      · rintro ⟨p, hp⟩
        exact HalNrfAddress.noConfusion hp

/-- A transceiver that has a payload in pipe 0, and says that it has 33 bytes. -/
def longPayloadBus : NrfBus Unit where
  opened := true
  answer _ tx := (fun _ => if tx = [Nrf.nop] then 0 else 33, ())
  fails _ := false
  garbage _ _ := 0
  uninit := 0

/-- The buffers are cleared beyond their end. -/
theorem nrfBufCall_safe_fails : ¬ BufSafe longPayloadBus .readRxPayload ⟨(), 0, false, []⟩ := by
  intro h
  have hops := h.inRange (fun _ _ => 0) 0 (.clear 33) (by decide)
  exact absurd hops (by decide)

end Safe

end Librasp
