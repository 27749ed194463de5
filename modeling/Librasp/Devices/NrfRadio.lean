import Librasp.Devices.NrfBuffers
import Librasp.Devices.NrfRegs

/-!
# The traffic of the nRF24L01+

Beside its registers the transceiver has a queue of payloads received, a queue of payloads to be
sent, and three interrupts, which are flags of `STATUS` that a write of 1 clears. The air goes on
between two transfers: payloads arrive, a transmission is acknowledged or given up.

* `Radio` is the transceiver with its history: the payloads received and those acknowledged, and
  how often each interrupt was raised. `Radio.next` is what a transfer makes of it, and
  `Radio.answer` what it answers, the status register first.
* `RadioEvent` is what goes on in the air. A queue holds three payloads; one that comes when it is
  full is lost.
* `Link` has the transceiver with what goes on in the air before each of the transfers to come, a
  list of events for each. Behind the end of the list nothing goes on anymore.
* `Link.bus` is the bus on which some transfers fail, `Link.good` the one on which none does.

The functions of the layer that are about this traffic come after the device: they look at the
flags and clear them, tell of the queues, and flush them.
-/

namespace Librasp

namespace Nrf

/-- `FLUSH_TX`. -/
def flushTx : UInt8 := 0xe1

/-- `FLUSH_RX`. -/
def flushRx : UInt8 := 0xe2

/-- `REUSE_TX_PL`. -/
def reuseTxPl : UInt8 := 0xe3

/-- `STATUS`. -/
def status : UInt8 := 0x07

/-- `OBSERVE_TX`. -/
def observeTx : UInt8 := 0x08

/-- `CD`. -/
def cd : UInt8 := 0x09

/-- `FIFO_STATUS`. -/
def fifoStatus : UInt8 := 0x17

/-- `BIT(MAX_RT)|BIT(TX_DS)|BIT(RX_DR)`. -/
def irqMask : UInt8 := bitMask 4 ||| bitMask 5 ||| bitMask 6

end Nrf

/-! ### The device -/

/-- The number of payloads of a queue. -/
def fifoDepth : ℕ := 3

/-- A payload received by a pipe. -/
structure RxPload where
  pipe : Fin 6
  bytes : List UInt8
  pos : 0 < bytes.length
  le : bytes.length ≤ nrfMaxPl
  deriving DecidableEq

/-- What the device does to a transfer depends on its first byte. -/
inductive NrfCmd
  | readStatus
  | readFifoStatus
  | readReg (reg : ℕ)
  | writeStatus
  | writeReg (reg : ℕ)
  | rxPlWid
  | rxPayload
  | txPayload
  | flushTx
  | flushRx
  | reuseTxPl
  | nop
  deriving DecidableEq

/-- The commands. `OBSERVE_TX`, `CD` and `FIFO_STATUS` cannot be written. -/
def NrfCmd.decode (cmd : UInt8) : NrfCmd :=
  if cmd = Nrf.status then readStatus
  else if cmd = Nrf.fifoStatus then readFifoStatus
  else if cmd < Nrf.wRegister then readReg cmd.toNat
  else if cmd = Nrf.wRegister + Nrf.status then writeStatus
  else if cmd = Nrf.wRegister + Nrf.observeTx ∨ cmd = Nrf.wRegister + Nrf.cd ∨
    cmd = Nrf.wRegister + Nrf.fifoStatus then nop
  else if cmd < 2 * Nrf.wRegister then writeReg (cmd - Nrf.wRegister).toNat
  else if cmd = Nrf.rRxPlWid then rxPlWid
  else if cmd = Nrf.rRxPayload then rxPayload
  else if cmd = Nrf.wTxPayload ∨ cmd = Nrf.wTxPayloadNoack ∨ (0xa8 ≤ cmd ∧ cmd < 0xb0) then
    txPayload
  else if cmd = Nrf.flushTx then flushTx
  else if cmd = Nrf.flushRx then flushRx
  else if cmd = Nrf.reuseTxPl then reuseTxPl
  else nop

/-- The transceiver, with its history. -/
structure Radio where
  /-- The registers, but for `STATUS` and `FIFO_STATUS`. -/
  regs : RegFile
  rxFifo : List RxPload
  txFifo : List (List UInt8)
  /-- The interrupts that are flagged. -/
  irq : HalNrfIrqSource → Bool
  reuse : Bool
  /-- The payload on the air. -/
  onAir : Option (List UInt8)
  /-- The payloads received so far. -/
  heard : List RxPload
  /-- The payloads acknowledged so far. -/
  acked : List (List UInt8)
  /-- How often each interrupt was raised. -/
  raised : HalNrfIrqSource → ℕ

/-- What goes on in the air. -/
inductive RadioEvent
  | receive (p : RxPload)
  /-- The payload on the air is acknowledged. -/
  | ack
  /-- The payload on the air was sent as often as allowed. -/
  | giveUp

namespace Radio

/-- An interrupt is flagged; it is raised if it was not. -/
def assert (r : Radio) (i : HalNrfIrqSource) : Radio :=
  { r with
    irq := Function.update r.irq i true
    raised := Function.update r.raised i (r.raised i + (!r.irq i).toNat) }

theorem irq_assert_self (r : Radio) (i : HalNrfIrqSource) : (r.assert i).irq i = true :=
  Function.update_self ..

theorem irq_assert_of_ne (r : Radio) {i j : HalNrfIrqSource} (h : j ≠ i) :
    (r.assert i).irq j = r.irq j :=
  Function.update_of_ne h ..

theorem raised_assert_self (r : Radio) (i : HalNrfIrqSource) :
    (r.assert i).raised i = r.raised i + (!r.irq i).toNat :=
  Function.update_self ..

theorem raised_assert_of_ne (r : Radio) {i j : HalNrfIrqSource} (h : j ≠ i) :
    (r.assert i).raised j = r.raised j :=
  Function.update_of_ne h ..

/-- A payload that comes when the queue is full is lost. -/
def event (r : Radio) : RadioEvent → Radio
  | .receive p =>
    if r.rxFifo.length < fifoDepth then
      { r with rxFifo := r.rxFifo ++ [p], heard := r.heard ++ [p] }.assert .rxDr
    else r
  | .ack =>
    match r.onAir with
    | none => r
    | some pload =>
      { r with
        onAir := none
        txFifo := if r.reuse then r.txFifo else r.txFifo.tail
        acked := r.acked ++ [pload] }.assert .txDs
  | .giveUp =>
    match r.onAir with
    | none => r
    | some _ => { r with onAir := none }.assert .maxRt

/-- The flags of the interrupts in `STATUS`. -/
def irqBits (r : Radio) : UInt8 :=
  putBit 4 (r.irq .maxRt) (putBit 5 (r.irq .txDs) (putBit 6 (r.irq .rxDr) 0))

/-- The pipe of the next payload, 7 if there is none. -/
def rxPNo (r : Radio) : UInt8 := (r.rxFifo.head?.map fun p => UInt8.ofNat p.pipe).getD 7

/-- `STATUS`. -/
def status (r : Radio) : UInt8 :=
  r.irqBits ||| r.rxPNo <<< 1 ||| (decide (fifoDepth ≤ r.txFifo.length)).toUInt8

/-- `FIFO_STATUS`. -/
def fifoStatus (r : Radio) : UInt8 :=
  putBit 0 r.rxFifo.isEmpty (putBit 1 (fifoDepth ≤ r.rxFifo.length)
    (putBit 4 r.txFifo.isEmpty (putBit 5 (fifoDepth ≤ r.txFifo.length) (putBit 6 r.reuse 0))))

/-- Flags of `STATUS` are cleared by writing 1. -/
def clear (r : Radio) (v : UInt8) : Radio :=
  { r with irq := fun i => r.irq i && !hasBit v i.maskBit }

/-- A register is written. To power down stops a transmission. -/
def writeReg (r : Radio) (reg : ℕ) (data : List UInt8) : Radio :=
  { r with
    regs := r.regs.write reg data
    onAir := if hasBit (r.regs.write reg data 0 0) 1 then r.onAir else none }

/-- A payload is queued, if there is room. -/
def queue (r : Radio) (data : List UInt8) : Radio :=
  if r.txFifo.length < fifoDepth then { r with txFifo := r.txFifo ++ [data], reuse := false } else r

/-- A payload was read. -/
def pop (r : Radio) : Radio := { r with rxFifo := r.rxFifo.tail }

/-- The next state after a transfer. -/
def next (r : Radio) (data : List UInt8) : NrfCmd → Radio
  | .writeStatus => r.clear (data.headD 0)
  | .writeReg reg => r.writeReg reg data
  | .rxPayload => r.pop
  | .txPayload => r.queue data
  | .flushTx => { r with txFifo := [], reuse := false }
  | .flushRx => { r with rxFifo := [] }
  | .reuseTxPl => { r with reuse := true }
  | _ => r

/-- The bytes after the status register that answer a transfer. -/
def reply (r : Radio) : NrfCmd → ℕ → UInt8
  | .readStatus => fun _ => r.status
  | .readFifoStatus => fun _ => r.fifoStatus
  | .readReg reg => r.regs reg
  | .rxPlWid => fun _ => UInt8.ofNat ((r.rxFifo.head?.map fun p => p.bytes.length).getD 0)
  | .rxPayload => fun i => (r.rxFifo.head?.map fun p => p.bytes.getD i 0).getD 0
  | _ => fun _ => r.status

/-- What the transceiver answers to a transfer. The first byte is the status register. -/
def answer (r : Radio) : List UInt8 → (ℕ → UInt8) × Radio
  | [] => (fun _ => r.status, r)
  | cmd :: data =>
    (fun i => if i = 0 then r.status else r.reply (NrfCmd.decode cmd) (i - 1),
      r.next data (NrfCmd.decode cmd))

/-- `CE` is pulsed: the next payload goes on the air. -/
def pulse (r : Radio) : Radio := { r with onAir := r.txFifo.head? }

end Radio

/-- The transceiver, and what goes on before each of the transfers to come. -/
structure Link where
  radio : Radio
  air : List (List RadioEvent)

namespace Link

/-- The transceiver at the next transfer. -/
def now (l : Link) : Radio := (l.air.headD []).foldl Radio.event l.radio

/-- After the next transfer. -/
def later (l : Link) (r : Radio) : Link := ⟨r, l.air.tail⟩

theorem radio_later (l : Link) (r : Radio) : (l.later r).radio = r := rfl

/-- What is answered to a transfer. -/
def answer (l : Link) (tx : List UInt8) : (ℕ → UInt8) × Link :=
  ((l.now.answer tx).1, l.later (l.now.answer tx).2)

/-- The bus of the transceiver. -/
def bus (fails : ℕ → Bool) (garbage : ℕ → ℕ → UInt8) (uninit : UInt8) : NrfBus Link where
  opened := true
  answer := answer
  fails := fails
  garbage := garbage
  uninit := uninit

/-- The bus on which no transfer fails. -/
abbrev good (garbage : ℕ → ℕ → UInt8) (uninit : UInt8) : NrfBus Link :=
  bus (fun _ => false) garbage uninit

end Link

/-! ### The functions of the layer -/

section Model

variable {δ : Type} (b : NrfBus δ)

/-- `hal_nrf_get_irq_flags`. -/
def halNrfGetIrqFlags : NrfM δ UInt8 := do
  return (← halNrfNop b) &&& Nrf.irqMask

/-- `hal_nrf_get_clear_irq_flags`. -/
def halNrfGetClearIrqFlags : NrfM δ UInt8 := do
  return (← halNrfWriteReg b Nrf.status Nrf.irqMask) &&& Nrf.irqMask

/-- `hal_nrf_clear_irq_flags_get_status`. -/
def halNrfClearIrqFlagsGetStatus : NrfM δ UInt8 := do
  let retval := (← halNrfWriteReg b Nrf.status Nrf.irqMask) &&& Nrf.irqMask
  fun s => if s.ecomm then (retval, s) else
    let r := halNrfReadReg b Nrf.status s
    (retval ||| (r.1 &&& ~~~Nrf.irqMask), r.2)

/-- `hal_nrf_clear_irq_flag`. -/
def halNrfClearIrqFlag (intSource : HalNrfIrqSource) : NrfM δ Unit :=
  halNrfSetReg b Nrf.status (bitMask intSource.maskBit)

/-- `hal_nrf_get_fifo_status`. -/
def halNrfGetFifoStatus : NrfM δ UInt8 := halNrfReadReg b Nrf.fifoStatus

/-- `hal_nrf_get_tx_fifo_status`. -/
def halNrfGetTxFifoStatus : NrfM δ UInt8 := do
  return ((← halNrfReadReg b Nrf.fifoStatus) &&& (bitMask 5 ||| bitMask 4)) >>> 4

/-- `hal_nrf_tx_fifo_empty`. -/
def halNrfTxFifoEmpty : NrfM δ Bool := do
  return ((← halNrfReadReg b Nrf.fifoStatus) >>> 4) &&& 1 ≠ 0

/-- `hal_nrf_tx_fifo_full`. -/
def halNrfTxFifoFull : NrfM δ Bool := do
  return ((← halNrfReadReg b Nrf.fifoStatus) >>> 5) &&& 1 ≠ 0

/-- `hal_nrf_get_rx_fifo_status`. -/
def halNrfGetRxFifoStatus : NrfM δ UInt8 := do
  return (← halNrfReadReg b Nrf.fifoStatus) &&& (bitMask 1 ||| bitMask 0)

/-- `hal_nrf_rx_fifo_empty`. -/
def halNrfRxFifoEmpty : NrfM δ Bool := do
  return ((← halNrfReadReg b Nrf.fifoStatus) >>> 0) &&& 1 ≠ 0

/-- `hal_nrf_rx_fifo_full`. -/
def halNrfRxFifoFull : NrfM δ Bool := do
  return ((← halNrfReadReg b Nrf.fifoStatus) >>> 1) &&& 1 ≠ 0

/-- `hal_nrf_get_reuse_tx_status`. -/
def halNrfGetReuseTxStatus : NrfM δ Bool := do
  return ((← halNrfReadReg b Nrf.fifoStatus) &&& bitMask 6) >>> 6 ≠ 0

/-- `hal_nrf_get_auto_retr_status`. -/
def halNrfGetAutoRetrStatus : NrfM δ UInt8 := halNrfReadReg b Nrf.observeTx

/-- `hal_nrf_get_transmit_attempts`. -/
def halNrfGetTransmitAttempts : NrfM δ UInt8 := do
  return (← halNrfReadReg b Nrf.observeTx) &&& 0x0f

/-- `hal_nrf_get_packet_lost_ctr`. -/
def halNrfGetPacketLostCtr : NrfM δ UInt8 := do
  return ((← halNrfReadReg b Nrf.observeTx) &&& 0xf0) >>> 4

/-- `hal_nrf_get_carrier_detect`. -/
def halNrfGetCarrierDetect : NrfM δ Bool := do
  return (← halNrfReadReg b Nrf.cd) &&& 1 ≠ 0

/-- A command of one byte. -/
def halNrfCommand (cmd : UInt8) : NrfM δ Unit := do
  let _ ← nrfTransmit b [cmd]

/-- `hal_nrf_reuse_tx`. -/
def halNrfReuseTx : NrfM δ Unit := halNrfCommand b Nrf.reuseTxPl

/-- `hal_nrf_flush_rx`. -/
def halNrfFlushRx : NrfM δ Unit := halNrfCommand b Nrf.flushRx

/-- `hal_nrf_flush_tx`. -/
def halNrfFlushTx : NrfM δ Unit := halNrfCommand b Nrf.flushTx

end Model

end Librasp
