import Librasp.Spi

/-!
# `nrf_hal.c`: the nRF24L01+ transceiver

The hardware abstraction layer talks to the transceiver over the SPI handle it was given, which
has to be in mode 0 with the most significant bit first.

A register is read or written by an SPI transfer, of a command byte and the data. Each transfer
sets `errno`, to `ECOMM` if it fails; what it then leaves in the receive buffer is anything. Most
of the functions read a register, change some of its bits and write it back (`halNrfUpdateReg`).

* The layer is a program on the state of the device (`NrfM`), over a bus (`NrfBus`): what the
  device makes of a transfer, and which of the transfers fail. One model of the functions serves
  all that is said about them: which register fields they set (`NrfRegs`), what becomes of failing
  transfers (`NrfErrors`), what they do to their buffers (`NrfBuffers`) and to the other pipes
  (`NrfPipes`), and the traffic of a transmitter and a receiver.
* `chkSpiErr` is `CHK_SPI_ERR`. The functions have it where the source has it, and so it is
  missing where the source goes on without a look at `errno`.
* `NrfSetter` and `NrfCall` are the calls of setters and configuration functions, with their
  arguments; `exec` is what a call does.

**Main result.** `spi_sync_iff`: the check of the handle in `hal_nrf_set_spi_hndl` can be relied
on, after any SPI calls, exactly if these meet the condition of `Spi`.
-/

namespace Librasp

/-! ### The SPI handle -/

/-- The check of `hal_nrf_set_spi_hndl` of a handle that is not `NULL`. -/
def halNrfSetSpiHndl (h : SpiHndl) : Bool :=
  h.fd ≠ -1 ∧ h.mode = 0 ∧ h.lsbFirst = 0 ∧ h.bitsPerWord = 8

/-- What is trusted of a handle that passes the check: the mode byte of the device is that of mode 0
with the most significant bit first. -/
def NrfTrust (s : SpiSt) : Prop :=
  halNrfSetSpiHndl s.hndl = true → s.dev.mode = 0

/-- What the check relies on: a handle that agrees with its device. -/
theorem nrfTrust_of_inSync {s : SpiSt} (hs : s.InSync) : NrfTrust s := by
  intro h
  obtain ⟨-, hmode, hlsb, -⟩ := of_decide_eq_true h
  have hbyte : UInt8.ofInt s.hndl.mode = s.dev.mode := by
    refine hs.ofInt_mode_eq (iff_of_false (fun h => h hlsb) ?_)
    rw [hmode]
    decide
  rw [← hbyte, hmode]
  rfl

/-- After a successful `spi_init`, and after every call that follows, the handle tells the settings
of the device, so that it is trusted rightly, and a call that reports an error has changed nothing:
this is so exactly if the arguments of `spi_init` fit, and every call meets `SpiOk`. So a mode that
brings another bit order than the one set before it is not accounted for, even if every `ioctl` is
granted. -/
theorem spi_sync_iff {e : SpiInitEnv} {dev : Spidev} {a : SpiArgs} {s : SpiSt}
    (h : spiInit e dev a = (.success, s)) (cs : List SpiCall) :
    ((s.InSync ∧ NrfTrust s) ∧
      Run.Each spiStep (fun s c s' => SpiGood s c s' ∧ NrfTrust s') s cs) ↔
      a.Fits ∧ Run.Meets spiStep SpiOk s cs := by
  have htrust : Run.Each spiStep (fun s c s' => SpiGood s c s' ∧ NrfTrust s') s cs ↔
      Run.Each spiStep SpiGood s cs :=
    ⟨Run.each_mono fun _ _ _ hgood => hgood.1,
      Run.each_mono fun _ _ _ hgood => ⟨hgood, nrfTrust_of_inSync hgood.1⟩⟩
  rw [htrust]
  constructor
  · rintro ⟨⟨hsync, -⟩, hcs⟩
    have hfit := (inSync_spiInit_iff h).mp hsync
    exact ⟨hfit, (each_spiGood_iff (spiInv_spiInit h hfit) cs).mp hcs⟩
  · rintro ⟨hfit, hcs⟩
    have hinv := spiInv_spiInit h hfit
    exact ⟨⟨hinv.inSync, nrfTrust_of_inSync hinv.inSync⟩, (each_spiGood_iff hinv cs).mpr hcs⟩

/-- A handle in mode 1 that is granted everything, asked for mode 0 with a write that fails: the
handle says mode 0, and is trusted. -/
theorem spi_sync_write_fails :
    let s := (spiInit ⟨some 3, ⟨true, true⟩, ⟨true, true⟩, ⟨true, true⟩, ⟨true, true⟩⟩ ⟨0⟩
      ⟨1, 0, 8, 1000000, 0, 0⟩).2
    let r := SpiCall.exec s (.setMode ⟨false, true⟩ 0)
    s.InSync ∧ r.1 = .ioctlErr ∧ r.2 ≠ s ∧ ¬ r.2.InSync ∧ ¬ NrfTrust r.2 := by
  refine ⟨⟨by decide, by decide⟩, rfl, by decide, fun h => ?_, fun h => ?_⟩
  · exact absurd h.mode (by decide)
  · exact absurd (h rfl) (by decide)

/-- A handle in mode 0, asked for mode 3 and back and for the bit order it has, every call
granted. -/
theorem spi_sync_granted :
    let s : SpiSt := ⟨⟨3, 0, 0, 8, 1000000, 0, 0⟩, ⟨0⟩⟩
    (s.InSync ∧ NrfTrust s) ∧ Run.Each spiStep (fun s c s' => SpiGood s c s' ∧ NrfTrust s') s
      [.setMode ⟨true, true⟩ 3, .setMode ⟨true, true⟩ 0, .setLsb ⟨true, true⟩ 0] := by
  have h : spiInit ⟨some 3, ⟨true, true⟩, ⟨true, true⟩, ⟨true, true⟩, ⟨true, true⟩⟩ ⟨0⟩
      ⟨0, 0, 8, 1000000, 0, 0⟩ = (.success, ⟨⟨3, 0, 0, 8, 1000000, 0, 0⟩, ⟨0⟩⟩) := rfl
  refine (spi_sync_iff h _).mpr ⟨⟨by decide, by decide, by decide⟩, ?_⟩
  refine ⟨⟨Or.inl rfl, by decide, by decide⟩, fun s₁ h₁ => ?_⟩
  obtain rfl := Option.some.inj h₁
  refine ⟨⟨Or.inl rfl, by decide, by decide⟩, fun s₂ h₂ => ?_⟩
  obtain rfl := Option.some.inj h₂
  exact ⟨⟨Or.inl rfl, by decide, by decide⟩, fun _ _ => trivial⟩

/-- A handle whose bit order was set, every call granted, and then its mode to 1: the device has
lost the bit order. -/
example :
    let s : SpiSt := ⟨⟨3, 0, 0, 8, 1000000, 0, 0⟩, ⟨0⟩⟩
    let r := SpiCall.exec (SpiCall.exec s (.setLsb ⟨true, true⟩ 1)).2 (.setMode ⟨true, true⟩ 1)
    r.1 = .success ∧ r.2.hndl.lsbFirst = 1 ∧ lsbBit r.2.dev.mode = false := by
  decide

/-! ### Transfers -/

/-- What the calls meet: whether there is an SPI handle (`spi_hndl.fd!=-1`), what the device
answers to a transfer (the receive bytes, and its next state), which transfers fail, and what a
failed transfer leaves in the receive buffer. -/
structure NrfBus (δ : Type) where
  opened : Bool
  answer : δ → List UInt8 → (ℕ → UInt8) × δ
  fails : ℕ → Bool
  garbage : ℕ → ℕ → UInt8
  /-- What a local variable holds that was never set. -/
  uninit : UInt8

/-- The state between the transfers. -/
structure NrfSt (δ : Type) where
  dev : δ
  /-- The number of transfers tried. -/
  n : ℕ
  /-- `errno==ECOMM`. -/
  ecomm : Bool
  /-- The transfers that reached the device. -/
  sent : List (List UInt8)

/-- What the functions of the layer are. -/
abbrev NrfM (δ : Type) (α : Type) := StateM (NrfSt δ) α

namespace Nrf

/-- `W_REGISTER`. -/
def wRegister : UInt8 := 0x20

/-- `R_RX_PAYLOAD`. -/
def rRxPayload : UInt8 := 0x61

/-- `R_RX_PL_WID`. -/
def rRxPlWid : UInt8 := 0x60

/-- `NOP`. -/
def nop : UInt8 := 0xff

/-- `CONFIG`. -/
def config : UInt8 := 0x00

/-- `EN_AA`. -/
def enAa : UInt8 := 0x01

/-- `EN_RXADDR`. -/
def enRxaddr : UInt8 := 0x02

/-- `SETUP_AW`. -/
def setupAw : UInt8 := 0x03

/-- `SETUP_RETR`. -/
def setupRetr : UInt8 := 0x04

/-- `RF_CH`. -/
def rfCh : UInt8 := 0x05

/-- `RF_SETUP`. -/
def rfSetup : UInt8 := 0x06

/-- `RX_ADDR_P0`, the first of the address registers; that of `TX_ADDR` follows those of the six
pipes. -/
def rxAddrP0 : UInt8 := 0x0a

/-- `RX_PW_P0`, the first of the registers of the payload widths. -/
def rxPwP0 : UInt8 := 0x11

/-- `DYNPD`. -/
def dynpd : UInt8 := 0x1c

/-- `FEATURE`. -/
def feature : UInt8 := 0x1d

end Nrf

section Model

variable {δ : Type} (b : NrfBus δ)

/-- `SET_SPI_ERR(spi_transmit(..))`: the receive bytes. -/
def nrfTransmit (tx : List UInt8) : NrfM δ (ℕ → UInt8) := fun s =>
  if b.opened then
    if b.fails s.n then (b.garbage s.n, { s with n := s.n + 1, ecomm := true })
    else ((b.answer s.dev tx).1, ⟨(b.answer s.dev tx).2, s.n + 1, false, s.sent ++ [tx]⟩)
  else (b.garbage s.n, { s with ecomm := true })

/-- `CHK_SPI_ERR`: on to what follows, or to `finish`. -/
def chkSpiErr (next : NrfM δ Unit) : NrfM δ Unit := fun s => if s.ecomm then ((), s) else next s

/-- `hal_nrf_read_reg`. -/
def halNrfReadReg (reg : UInt8) : NrfM δ UInt8 := do
  let rx ← nrfTransmit b [reg, 0]
  return rx 1

/-- `hal_nrf_write_reg`, which tells the status register. -/
def halNrfWriteReg (reg value : UInt8) : NrfM δ UInt8 := do
  let rx ← nrfTransmit b [Nrf.wRegister + reg, value]
  return rx 0

/-- `hal_nrf_write_multibyte_reg`, of `length` bytes from a buffer. -/
def halNrfWriteMultibyteReg (reg : UInt8) (pbuf : ℕ → UInt8) (length : UInt8) : NrfM δ Unit := do
  let _ ← nrfTransmit b (reg :: (List.range length.toNat).map pbuf)

/-- A register is written, whatever its old value was. -/
def halNrfSetReg (reg value : UInt8) : NrfM δ Unit := do
  let _ ← halNrfWriteReg b reg value

/-- A register is read, and written back with some of its bits changed. -/
def halNrfUpdateReg (reg : UInt8) (f : UInt8 → UInt8) : NrfM δ Unit := do
  let v ← halNrfReadReg b reg
  chkSpiErr (halNrfSetReg b reg (f v))

/-! ### Bits -/

/-- `BIT`. -/
def bitMask (n : ℕ) : UInt8 := 1 <<< UInt8.ofNat n

/-- `SET_BIT`. -/
def setBit (v : UInt8) (n : ℕ) : UInt8 := v ||| bitMask n

/-- `CLR_BIT`. -/
def clrBit (v : UInt8) (n : ℕ) : UInt8 := v &&& ~~~bitMask n

/-- A bit is set or cleared. -/
def putBit (n : ℕ) (on : Bool) (v : UInt8) : UInt8 := if on then setBit v n else clrBit v n

/-- A bit is tested. -/
def hasBit (v : UInt8) (n : ℕ) : Bool := v &&& bitMask n ≠ 0

/-! ### Arguments -/

/-- `hal_nrf_irq_source_t`. -/
inductive HalNrfIrqSource
  | maxRt
  | txDs
  | rxDr
  deriving DecidableEq, Repr

/-- The bit of `CONFIG` that masks an interrupt: `MASK_MAX_RT`, `MASK_TX_DS`, `MASK_RX_DR`. -/
def HalNrfIrqSource.maskBit : HalNrfIrqSource → ℕ
  | maxRt => 4
  | txDs => 5
  | rxDr => 6

/-- `hal_nrf_operation_mode_t`. -/
inductive HalNrfOperationMode
  | ptx
  | prx
  deriving DecidableEq, Repr

/-- `hal_nrf_pwr_mode_t`. -/
inductive HalNrfPwrMode
  | pwrDown
  | pwrUp
  deriving DecidableEq, Repr

/-- `hal_nrf_output_power_t`. -/
inductive HalNrfOutputPower
  | dbm18
  | dbm12
  | dbm6
  | dbm0
  deriving DecidableEq, Repr

/-- The value of an output power. -/
def HalNrfOutputPower.code : HalNrfOutputPower → UInt8
  | dbm18 => 0
  | dbm12 => 1
  | dbm6 => 2
  | dbm0 => 3

/-- `hal_nrf_datarate_t`. -/
inductive HalNrfDatarate
  | mbps1
  | mbps2
  | kbps250
  deriving DecidableEq, Repr

/-- The value of a data rate. -/
def HalNrfDatarate.code : HalNrfDatarate → ℕ
  | mbps1 => 0
  | mbps2 => 1
  | kbps250 => 2

/-- `hal_nrf_crc_mode_t`. -/
inductive HalNrfCrcMode
  | off
  | bit8
  | bit16
  deriving DecidableEq, Repr

/-- `hal_nrf_address_width_t`. -/
inductive HalNrfAddressWidth
  | bytes3
  | bytes4
  | bytes5
  deriving DecidableEq, Repr

/-- The value of an address width. -/
def HalNrfAddressWidth.code : HalNrfAddressWidth → UInt8
  | bytes3 => 3
  | bytes4 => 4
  | bytes5 => 5

/-- There are pipes. -/
instance neZero_six : NeZero 6 := ⟨by decide⟩

/-- `hal_nrf_address_t`: one of the six pipes, `HAL_NRF_TX` or `HAL_NRF_ALL`. -/
inductive HalNrfAddress
  | pipe (p : Fin 6)
  | tx
  | all
  deriving DecidableEq, Repr

/-- The value of a pipe selector. -/
def HalNrfAddress.code : HalNrfAddress → UInt8
  | pipe p => UInt8.ofNat p
  | tx => 6
  | all => 0xff

/-! ### The fields of `CONFIG` -/

/-- `hal_nrf_set_operation_mode`. -/
def halNrfSetOperationMode (opMode : HalNrfOperationMode) : NrfM δ Unit :=
  halNrfUpdateReg b Nrf.config (putBit 0 (opMode = .prx))

/-- `hal_nrf_get_operation_mode`. -/
def halNrfGetOperationMode : NrfM δ HalNrfOperationMode := do
  let config ← halNrfReadReg b Nrf.config
  return if hasBit config 0 then .prx else .ptx

/-- `hal_nrf_set_power_mode`. -/
def halNrfSetPowerMode (pwrMode : HalNrfPwrMode) : NrfM δ Unit :=
  halNrfUpdateReg b Nrf.config (putBit 1 (pwrMode = .pwrUp))

/-- `hal_nrf_get_power_mode`. -/
def halNrfGetPowerMode : NrfM δ HalNrfPwrMode := do
  let config ← halNrfReadReg b Nrf.config
  return if hasBit config 1 then .pwrUp else .pwrDown

/-- What `hal_nrf_set_crc_mode` makes of `CONFIG`. -/
def crcBits (crcMode : HalNrfCrcMode) (config : UInt8) : UInt8 :=
  match crcMode with
  | .off => clrBit config 3
  | .bit8 => clrBit (setBit config 3) 2
  | .bit16 => setBit (setBit config 3) 2

/-- `hal_nrf_set_crc_mode`. -/
def halNrfSetCrcMode (crcMode : HalNrfCrcMode) : NrfM δ Unit :=
  halNrfUpdateReg b Nrf.config (crcBits crcMode)

/-- `hal_nrf_get_crc_mode`. -/
def halNrfGetCrcMode : NrfM δ HalNrfCrcMode := do
  let config ← halNrfReadReg b Nrf.config
  return if hasBit config 3 then (if hasBit config 2 then .bit16 else .bit8) else .off

/-- `hal_nrf_set_irq_mode`: an interrupt is enabled by clearing its mask. -/
def halNrfSetIrqMode (intSource : HalNrfIrqSource) (irqState : Bool) : NrfM δ Unit :=
  halNrfUpdateReg b Nrf.config (putBit intSource.maskBit !irqState)

/-- `hal_nrf_get_irq_mode`. -/
def halNrfGetIrqMode (intSource : HalNrfIrqSource) : NrfM δ Bool := do
  let config ← halNrfReadReg b Nrf.config
  return !hasBit config intSource.maskBit

/-! ### The fields of `FEATURE` -/

/-- `hal_nrf_enable_dynamic_payload`. -/
def halNrfEnableDynamicPayload (enable : Bool) : NrfM δ Unit :=
  halNrfUpdateReg b Nrf.feature (putBit 2 enable)

/-- `hal_nrf_is_dynamic_payload_enabled`. -/
def halNrfIsDynamicPayloadEnabled : NrfM δ Bool := do
  return hasBit (← halNrfReadReg b Nrf.feature) 2

/-- `hal_nrf_enable_ack_payload`. -/
def halNrfEnableAckPayload (enable : Bool) : NrfM δ Unit :=
  halNrfUpdateReg b Nrf.feature (putBit 1 enable)

/-- `hal_nrf_is_ack_payload_enabled`. -/
def halNrfIsAckPayloadEnabled : NrfM δ Bool := do
  return hasBit (← halNrfReadReg b Nrf.feature) 1

/-- `hal_nrf_enable_dynamic_ack`. -/
def halNrfEnableDynamicAck (enable : Bool) : NrfM δ Unit :=
  halNrfUpdateReg b Nrf.feature (putBit 0 enable)

/-- `hal_nrf_is_dynamic_ack_enabled`. -/
def halNrfIsDynamicAckEnabled : NrfM δ Bool := do
  return hasBit (← halNrfReadReg b Nrf.feature) 0

/-- `hal_nrf_setup_dynamic_payload`. -/
def halNrfSetupDynamicPayload (setup : UInt8) : NrfM δ Unit :=
  halNrfSetReg b Nrf.dynpd (setup &&& 0x3f)

/-! ### The fields of `RF_CH`, `RF_SETUP` and `SETUP_RETR` -/

/-- `hal_nrf_set_rf_channel`. -/
def halNrfSetRfChannel (channel : UInt8) : NrfM δ Unit :=
  halNrfSetReg b Nrf.rfCh (channel &&& 0x7f)

/-- `hal_nrf_get_rf_channel`. -/
def halNrfGetRfChannel : NrfM δ UInt8 := do
  return (← halNrfReadReg b Nrf.rfCh) &&& 0x7f

/-- What `hal_nrf_set_output_power` makes of `RF_SETUP`. -/
def powerBits (power : HalNrfOutputPower) (rfSetup : UInt8) : UInt8 :=
  (rfSetup &&& ~~~(bitMask 1 ||| bitMask 2)) ||| ((power.code &&& 3) <<< 1)

/-- `hal_nrf_set_output_power`. The read is not checked. -/
def halNrfSetOutputPower (power : HalNrfOutputPower) : NrfM δ Unit := do
  let rfSetup ← halNrfReadReg b Nrf.rfSetup
  halNrfSetReg b Nrf.rfSetup (powerBits power rfSetup)

/-- `hal_nrf_get_output_power`: the value of the enumeration. -/
def halNrfGetOutputPower : NrfM δ UInt8 := do
  return ((← halNrfReadReg b Nrf.rfSetup) >>> 1) &&& 3

/-- What `hal_nrf_set_datarate` makes of `RF_SETUP`. -/
def datarateBits (datarate : HalNrfDatarate) (rfSetup : UInt8) : UInt8 :=
  match datarate with
  | .kbps250 => clrBit (setBit rfSetup 5) 3
  | .mbps1 => clrBit (clrBit rfSetup 5) 3
  | .mbps2 => setBit (clrBit rfSetup 5) 3

/-- `hal_nrf_set_datarate`. -/
def halNrfSetDatarate (datarate : HalNrfDatarate) : NrfM δ Unit :=
  halNrfUpdateReg b Nrf.rfSetup (datarateBits datarate)

/-- `hal_nrf_get_datarate`: the value of the enumeration. -/
def halNrfGetDatarate : NrfM δ UInt8 := do
  let rfSetup ← halNrfReadReg b Nrf.rfSetup
  return ((rfSetup &&& bitMask 5) <<< 1) ||| (rfSetup &&& bitMask 3)

/-- `hal_nrf_set_pll_mode`. -/
def halNrfSetPllMode (pllLock : Bool) : NrfM δ Unit :=
  halNrfUpdateReg b Nrf.rfSetup (putBit 4 pllLock)

/-- `hal_nrf_get_pll_mode`. -/
def halNrfGetPllMode : NrfM δ Bool := do
  return hasBit (← halNrfReadReg b Nrf.rfSetup) 4

/-- `hal_nrf_enable_continuous_wave`. -/
def halNrfEnableContinuousWave (enable : Bool) : NrfM δ Unit :=
  halNrfUpdateReg b Nrf.rfSetup (putBit 7 enable)

/-- `hal_nrf_is_continuous_wave_enabled`. -/
def halNrfIsContinuousWaveEnabled : NrfM δ Bool := do
  return hasBit (← halNrfReadReg b Nrf.rfSetup) 7

/-- `hal_nrf_set_auto_retr`. -/
def halNrfSetAutoRetr (retr : UInt8) (delay : UInt16) : NrfM δ Unit :=
  halNrfSetReg b Nrf.setupRetr ((((delay >>> 8) &&& 0x0f).toUInt8 <<< 4) ||| (retr &&& 0x0f))

/-- `hal_nrf_get_auto_retr_ctr`. -/
def halNrfGetAutoRetrCtr : NrfM δ UInt8 := do
  return (← halNrfReadReg b Nrf.setupRetr) &&& 0x0f

/-- `hal_nrf_get_auto_retr_delay`. -/
def halNrfGetAutoRetrDelay : NrfM δ UInt16 := do
  return ((((← halNrfReadReg b Nrf.setupRetr) >>> 4) &&& 0x0f).toUInt16 + 1) * 250

/-! ### Pipes -/

/-- `hal_nrf_set_rx_payload_width`. -/
def halNrfSetRxPayloadWidth (pipeNum : HalNrfAddress) (ploadWidth : UInt8) : NrfM δ Unit :=
  halNrfSetReg b (Nrf.rxPwP0 + pipeNum.code) ploadWidth

/-- `hal_nrf_get_rx_payload_width`. -/
def halNrfGetRxPayloadWidth (pipeNum : HalNrfAddress) : NrfM δ UInt8 :=
  halNrfReadReg b (Nrf.rxPwP0 + pipeNum.code)

/-- `EN_RXADDR` and `EN_AA` are read, and written back changed. -/
def halNrfUpdatePipes (change : Option (UInt8 × UInt8 → UInt8 × UInt8)) : NrfM δ Unit := do
  let enRxaddr ← halNrfReadReg b Nrf.enRxaddr
  chkSpiErr do
    let enAa ← halNrfReadReg b Nrf.enAa
    chkSpiErr <| match change with
      | none => pure ()
      | some f => do
        halNrfSetReg b Nrf.enRxaddr (f (enRxaddr, enAa)).1
        chkSpiErr (halNrfSetReg b Nrf.enAa (f (enRxaddr, enAa)).2)

/-- `hal_nrf_open_pipe`. -/
def halNrfOpenPipe (pipeNum : HalNrfAddress) (autoAck : Bool) : NrfM δ Unit :=
  halNrfUpdatePipes b <| match pipeNum with
    | .pipe p => some fun r => (setBit r.1 p, putBit p autoAck r.2)
    | .all => some fun _ => (0x3f, if autoAck then 0x3f else 0)
    | .tx => none

/-- `hal_nrf_close_pipe`. -/
def halNrfClosePipe (pipeNum : HalNrfAddress) : NrfM δ Unit :=
  halNrfUpdatePipes b <| match pipeNum with
    | .pipe p => some fun r => (clrBit r.1 p, clrBit r.2 p)
    | .all => some fun _ => (0, 0)
    | .tx => none

/-- `hal_nrf_get_pipe_status`. -/
def halNrfGetPipeStatus (pipeNum : HalNrfAddress) : NrfM δ UInt8 := do
  let enRxaddr ← halNrfReadReg b Nrf.enRxaddr
  fun s => if s.ecomm then (0, s) else
    let r := halNrfReadReg b Nrf.enAa s
    match pipeNum with
    | .pipe p => (((hasBit r.1 p).toUInt8 <<< 1) + (hasBit enRxaddr p).toUInt8, r.2)
    | _ => (0, r.2)

/-- `hal_nrf_set_address_width`. -/
def halNrfSetAddressWidth (addressWidth : HalNrfAddressWidth) : NrfM δ Unit :=
  halNrfSetReg b Nrf.setupAw ((addressWidth.code - 2) &&& 3)

/-- `hal_nrf_get_address_width`. -/
def halNrfGetAddressWidth : NrfM δ UInt8 := do
  return (← halNrfReadReg b Nrf.setupAw) + 2

/-- `hal_nrf_set_address`, of the bytes from `addr` on. The width of the addresses of pipes 0 and 1
and of the transmitter is read from the device, and that read is not checked. -/
def halNrfSetAddress (pipeNum : HalNrfAddress) (addr : ℕ → UInt8) : NrfM δ Unit :=
  let multibyte : NrfM δ Unit := do
    let width ← halNrfGetAddressWidth b
    halNrfWriteMultibyteReg b (Nrf.wRegister + Nrf.rxAddrP0 + pipeNum.code) addr width
  match pipeNum with
  | .tx => multibyte
  | .pipe p => if p < 2 then multibyte else halNrfSetReg b (Nrf.rxAddrP0 + pipeNum.code) (addr 0)
  | .all => pure ()

/-- `hal_nrf_nop`, and `hal_nrf_get_status`: the status register. -/
def halNrfNop : NrfM δ UInt8 := do
  let rx ← nrfTransmit b [Nrf.nop]
  return rx 0

/-- `hal_nrf_get_rx_data_source`. -/
def halNrfGetRxDataSource : NrfM δ UInt8 := do
  return ((← halNrfNop b) &&& 0x0e) >>> 1

/-- `hal_nrf_read_rx_payload_width`. -/
def halNrfReadRxPayloadWidth : NrfM δ UInt8 := halNrfReadReg b Nrf.rRxPlWid

/-- The transfer of `hal_nrf_read_multibyte_reg`: what it returns, and the bytes copied to the
caller. -/
def halNrfReadBytes (cmd reg length : UInt8) : NrfM δ (UInt16 × List UInt8) := do
  let ret := reg.toUInt16 <<< 8 ||| length.toUInt16
  if 0 < length then
    let rx ← nrfTransmit b (cmd :: List.replicate length.toNat 0)
    return (ret, (List.range length.toNat).map fun i => rx (i + 1))
  else return (ret, [])

/-- `hal_nrf_read_multibyte_reg` once it has the command: the length is read from the device if none
is given. -/
def halNrfReadSized (cmd reg len : UInt8) (width : NrfM δ UInt8) :
    NrfM δ (UInt16 × List UInt8) :=
  if len = 0 then do
    let length ← width
    fun s => if s.ecomm then ((reg.toUInt16 <<< 8 ||| length.toUInt16, []), s)
      else halNrfReadBytes b cmd reg length s
  else halNrfReadBytes b cmd reg len

/-- `hal_nrf_read_multibyte_reg`. -/
def halNrfReadMultibyteReg (reg len : UInt8) : NrfM δ (UInt16 × List UInt8) :=
  -- `HAL_NRF_PIPE0`, `HAL_NRF_PIPE1`, `HAL_NRF_TX`
  if reg = 0 ∨ reg = 1 ∨ reg = 6 then
    halNrfReadSized b (Nrf.rxAddrP0 + reg) reg len (halNrfGetAddressWidth b)
  -- `HAL_NRF_RX_PLOAD`
  else if reg = 8 then do
    let src ← halNrfGetRxDataSource b
    fun s => if s.ecomm then ((src.toUInt16 <<< 8 ||| b.uninit.toUInt16, []), s)
      else if src < 7 then
        halNrfReadSized b Nrf.rRxPayload src len (halNrfReadRxPayloadWidth b) s
      else ((src.toUInt16 <<< 8, []), s)
  else return (reg.toUInt16 <<< 8, [])

/-- `hal_nrf_get_address`: the length, and the bytes of the address. -/
def halNrfGetAddress (pipeNum : HalNrfAddress) : NrfM δ (UInt8 × List UInt8) :=
  let multibyte : NrfM δ (UInt8 × List UInt8) := do
    let r ← halNrfReadMultibyteReg b pipeNum.code 0
    return (r.1.toUInt8, r.2)
  let single : NrfM δ (UInt8 × List UInt8) := do
    return (1, [← halNrfReadReg b (Nrf.rxAddrP0 + pipeNum.code)])
  match pipeNum with
  | .tx => multibyte
  | .pipe p => if p < 2 then multibyte else single
  | .all => single

/-! ### Configurations -/

/-- `hal_nrf_config_rx_pipe`; `addr` may be `NULL`. -/
def halNrfConfigRxPipe (pipeNum : HalNrfAddress) (addr : Option (ℕ → UInt8)) (autoAck : Bool)
    (ploadWidth : UInt8) : NrfM δ Unit := do
  halNrfOpenPipe b pipeNum autoAck
  chkSpiErr <| match addr with
    | none => halNrfSetRxPayloadWidth b pipeNum ploadWidth
    | some addr => do
      halNrfSetAddress b pipeNum addr
      chkSpiErr (halNrfSetRxPayloadWidth b pipeNum ploadWidth)

/-- `hal_nrf_config_tx`; `addr` may be `NULL`. -/
def halNrfConfigTx (addr : Option (ℕ → UInt8)) (power : HalNrfOutputPower) (retr : UInt8)
    (delay : UInt16) : NrfM δ Unit := do
  halNrfSetOutputPower b power
  chkSpiErr do
    halNrfSetAutoRetr b retr delay
    chkSpiErr <| match addr with
      | none => halNrfOpenPipe b (.pipe 0) true
      | some addr => do
        halNrfSetAddress b .tx addr
        chkSpiErr do
          halNrfSetAddress b (.pipe 0) addr
          chkSpiErr (halNrfOpenPipe b (.pipe 0) true)

end Model

/-! ### Calls -/

/-- A call of a setter. -/
inductive NrfSetter
  | operationMode (opMode : HalNrfOperationMode)
  | powerMode (pwrMode : HalNrfPwrMode)
  | crcMode (mode : HalNrfCrcMode)
  | irqMode (intSource : HalNrfIrqSource) (irqState : Bool)
  | dynamicPayload (enable : Bool)
  | ackPayload (enable : Bool)
  | dynamicAck (enable : Bool)
  | setupDynamicPayload (setup : UInt8)
  | rfChannel (channel : UInt8)
  | outputPower (power : HalNrfOutputPower)
  | datarate (rate : HalNrfDatarate)
  | pllMode (pllLock : Bool)
  | continuousWave (enable : Bool)
  | autoRetr (retr : UInt8) (delay : UInt16)
  | rxPayloadWidth (pipeNum : HalNrfAddress) (ploadWidth : UInt8)
  | openPipe (pipeNum : HalNrfAddress) (autoAck : Bool)
  | closePipe (pipeNum : HalNrfAddress)
  | addressWidth (width : HalNrfAddressWidth)
  | address (pipeNum : HalNrfAddress) (addr : ℕ → UInt8)

/-- What a setter does. -/
def NrfSetter.exec {δ : Type} (b : NrfBus δ) : NrfSetter → NrfM δ Unit
  | operationMode opMode => halNrfSetOperationMode b opMode
  | powerMode pwrMode => halNrfSetPowerMode b pwrMode
  | crcMode mode => halNrfSetCrcMode b mode
  | irqMode intSource irqState => halNrfSetIrqMode b intSource irqState
  | dynamicPayload enable => halNrfEnableDynamicPayload b enable
  | ackPayload enable => halNrfEnableAckPayload b enable
  | dynamicAck enable => halNrfEnableDynamicAck b enable
  | setupDynamicPayload setup => halNrfSetupDynamicPayload b setup
  | rfChannel channel => halNrfSetRfChannel b channel
  | outputPower power => halNrfSetOutputPower b power
  | datarate rate => halNrfSetDatarate b rate
  | pllMode pllLock => halNrfSetPllMode b pllLock
  | continuousWave enable => halNrfEnableContinuousWave b enable
  | autoRetr retr delay => halNrfSetAutoRetr b retr delay
  | rxPayloadWidth pipeNum ploadWidth => halNrfSetRxPayloadWidth b pipeNum ploadWidth
  | openPipe pipeNum autoAck => halNrfOpenPipe b pipeNum autoAck
  | closePipe pipeNum => halNrfClosePipe b pipeNum
  | addressWidth width => halNrfSetAddressWidth b width
  | address pipeNum addr => halNrfSetAddress b pipeNum addr

/-- A call of a setter or of a configuration function. -/
inductive NrfCall
  | setter (c : NrfSetter)
  | configRxPipe (pipeNum : HalNrfAddress) (addr : Option (ℕ → UInt8)) (autoAck : Bool)
    (ploadWidth : UInt8)
  | configTx (addr : Option (ℕ → UInt8)) (power : HalNrfOutputPower) (retr : UInt8)
    (delay : UInt16)

/-- What a call does. -/
def NrfCall.exec {δ : Type} (b : NrfBus δ) : NrfCall → NrfM δ Unit
  | setter c => c.exec b
  | configRxPipe pipeNum addr autoAck ploadWidth =>
    halNrfConfigRxPipe b pipeNum addr autoAck ploadWidth
  | configTx addr power retr delay => halNrfConfigTx b addr power retr delay

end Librasp
