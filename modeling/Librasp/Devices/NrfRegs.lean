import Librasp.Devices.NrfHal
import Librasp.Foundation.Fields

/-!
# Registers and fields of the nRF24L01+

The transceiver is a file of registers of a byte each, three of them, the addresses of pipes 0 and
1 and of the transmitter, of up to five. A transfer reads or writes the register it addresses.

A setter of the layer sets a field, which is some bits of a register, or a byte of an address
(`fieldAt` is the map of the registers). It leaves every bit of the other fields
(`frames_of_inRange`), and its own field then tells what was set (`held_apply`); only the data
rate is told otherwise than it is set.

* `NrfField.held` is what the registers hold of a field. It rests on the bits of the field alone
  (`held_congr`), and a getter tells it where it is shown (`get_eq_some`).
* `NrfSetter.value` is what a call sets a field to, `none` if it does not set it. A call for all
  pipes sets the fields of each of them, and one of an address as many bytes as the width says.
* `Frames` and `NrfSetter.Sets` are the two facts about a call: it leaves the bits of the fields
  it does not set, and sets those it does. There is one lemma for each shape of a setter, and by
  these one for each setter.

**Main result.** `nrfRun_kept_iff`: after any calls with arguments in range, from any registers,
every getter tells what its field was last set to, exactly if no data rate but 1 Mbps was set
last.
-/

namespace Librasp

/-! ### The registers -/

/-- The bytes of the registers. -/
abbrev RegFile := ℕ → ℕ → UInt8

namespace RegFile

/-- The size of a register. -/
def size (r : ℕ) : ℕ := if r = 0x0a ∨ r = 0x0b ∨ r = 0x10 then 5 else 1

/-- Write a register, as far as it goes. -/
def write (d : RegFile) (r : ℕ) (data : List UInt8) : RegFile := fun r' j =>
  if r' = r ∧ j < data.length ∧ j < size r then data.getD j 0 else d r' j

/-- Write a register of one byte. -/
def put (d : RegFile) (r : ℕ) (v : UInt8) : RegFile := fun r' j =>
  if r' = r ∧ j = 0 then v else d r' j

/-- What the transceiver answers to a transfer: `R_REGISTER`, `W_REGISTER`, or another command,
which leaves the registers. The first byte is the status register. -/
def answer (d : RegFile) : List UInt8 → (ℕ → UInt8) × RegFile
  | [] => (fun _ => d 0x07 0, d)
  | cmd :: data =>
    if cmd < Nrf.wRegister then
      (fun i => if i = 0 then d 0x07 0 else d cmd.toNat (i - 1), d)
    else if cmd < 2 * Nrf.wRegister then
      (fun _ => d 0x07 0, d.write (cmd - Nrf.wRegister).toNat data)
    else (fun _ => d 0x07 0, d)

/-- The bus on which every transfer succeeds. -/
def bus : NrfBus RegFile where
  opened := true
  answer := answer
  fails := fun _ => false
  garbage := fun _ _ => 0
  uninit := 0

/-- What a function of the layer returns. -/
def result {α : Type} (d : RegFile) (m : NrfM RegFile α) : α := (m ⟨d, 0, false, []⟩).1

/-- What a function of the layer makes of the registers. -/
def after {α : Type} (d : RegFile) (m : NrfM RegFile α) : RegFile := (m ⟨d, 0, false, []⟩).2.dev

end RegFile

/-- What a setter makes of the registers. -/
def NrfSetter.apply (c : NrfSetter) (d : RegFile) : RegFile := d.after (c.exec RegFile.bus)

/-! ### The fields -/

/-- A field: what a setter sets, and a getter tells. -/
inductive NrfField
  | operationMode
  | powerMode
  | crcMode
  | irqMode (intSource : HalNrfIrqSource)
  | dynamicPayload
  | ackPayload
  | dynamicAck
  | rfChannel
  | outputPower
  | datarate
  | pllMode
  | continuousWave
  | autoRetrCtr
  | autoRetrDelay
  | rxPayloadWidth (pipeNum : Fin 6)
  | pipeStatus (pipeNum : Fin 6)
  | addressWidth
  /-- A byte of the address of a pipe. -/
  | pipeAddress (pipeNum : Fin 6) (j : ℕ)
  /-- A byte of the address of the transmitter. -/
  | txAddress (j : ℕ)
  deriving DecidableEq

/-- The value of an operation mode. -/
def HalNrfOperationMode.code : HalNrfOperationMode → ℕ
  | ptx => 0
  | prx => 1

/-- The value of a power mode. -/
def HalNrfPwrMode.code : HalNrfPwrMode → ℕ
  | pwrDown => 0
  | pwrUp => 1

/-- The value of a CRC mode. -/
def HalNrfCrcMode.code : HalNrfCrcMode → ℕ
  | off => 0
  | bit8 => 1
  | bit16 => 2

/-- What the getter of a field tells, if anything: a byte of an address beyond the current width is
not told. -/
def NrfField.get (d : RegFile) : NrfField → Option ℕ
  | operationMode => some (d.result (halNrfGetOperationMode RegFile.bus)).code
  | powerMode => some (d.result (halNrfGetPowerMode RegFile.bus)).code
  | crcMode => some (d.result (halNrfGetCrcMode RegFile.bus)).code
  | irqMode intSource => some (d.result (halNrfGetIrqMode RegFile.bus intSource)).toNat
  | dynamicPayload => some (d.result (halNrfIsDynamicPayloadEnabled RegFile.bus)).toNat
  | ackPayload => some (d.result (halNrfIsAckPayloadEnabled RegFile.bus)).toNat
  | dynamicAck => some (d.result (halNrfIsDynamicAckEnabled RegFile.bus)).toNat
  | rfChannel => some (d.result (halNrfGetRfChannel RegFile.bus)).toNat
  | outputPower => some (d.result (halNrfGetOutputPower RegFile.bus)).toNat
  | datarate => some (d.result (halNrfGetDatarate RegFile.bus)).toNat
  | pllMode => some (d.result (halNrfGetPllMode RegFile.bus)).toNat
  | continuousWave => some (d.result (halNrfIsContinuousWaveEnabled RegFile.bus)).toNat
  | autoRetrCtr => some (d.result (halNrfGetAutoRetrCtr RegFile.bus)).toNat
  | autoRetrDelay => some (d.result (halNrfGetAutoRetrDelay RegFile.bus)).toNat
  | rxPayloadWidth p => some (d.result (halNrfGetRxPayloadWidth RegFile.bus (.pipe p))).toNat
  | pipeStatus p => some (d.result (halNrfGetPipeStatus RegFile.bus (.pipe p))).toNat
  | addressWidth => some (d.result (halNrfGetAddressWidth RegFile.bus)).toNat
  | pipeAddress p j =>
    (d.result (halNrfGetAddress RegFile.bus (.pipe p))).2[j]?.map UInt8.toNat
  | txAddress j => (d.result (halNrfGetAddress RegFile.bus .tx)).2[j]?.map UInt8.toNat

/-- A call is made for a pipe, or for all of them. -/
def HalNrfAddress.Covers (pipeNum : HalNrfAddress) (p : Fin 6) : Prop :=
  pipeNum = .pipe p ∨ pipeNum = .all

instance (pipeNum : HalNrfAddress) (p : Fin 6) : Decidable (pipeNum.Covers p) :=
  inferInstanceAs (Decidable (_ ∨ _))

theorem HalNrfAddress.covers_pipe (p : Fin 6) : (pipe p).Covers p := Or.inl rfl

theorem HalNrfAddress.covers_all (p : Fin 6) : all.Covers p := Or.inr rfl

/-- The bytes a multi-byte address register is set by: as many as the current width. -/
def addressByte (d : RegFile) (addr : ℕ → UInt8) (j : ℕ) : Option ℕ :=
  if j < (d 0x03 0 + 2).toNat ∧ j < 5 then some (addr j).toNat else none

/-- The value a call sets a field to, if it is one that the call sets. -/
def NrfSetter.value (c : NrfSetter) (d : RegFile) (f : NrfField) : Option ℕ :=
  match c, f with
  | operationMode opMode, .operationMode => some opMode.code
  | powerMode pwrMode, .powerMode => some pwrMode.code
  | crcMode mode, .crcMode => some mode.code
  | irqMode intSource irqState, .irqMode src =>
    if intSource = src then some irqState.toNat else none
  | dynamicPayload enable, .dynamicPayload => some enable.toNat
  | ackPayload enable, .ackPayload => some enable.toNat
  | dynamicAck enable, .dynamicAck => some enable.toNat
  | rfChannel channel, .rfChannel => some channel.toNat
  | outputPower power, .outputPower => some power.code.toNat
  | datarate rate, .datarate => some rate.code
  | pllMode pllLock, .pllMode => some pllLock.toNat
  | continuousWave enable, .continuousWave => some enable.toNat
  | autoRetr retr _, .autoRetrCtr => some retr.toNat
  | autoRetr _ delay, .autoRetrDelay => some delay.toNat
  | rxPayloadWidth pipeNum ploadWidth, .rxPayloadWidth p =>
    if pipeNum = .pipe p then some ploadWidth.toNat else none
  | openPipe pipeNum autoAck, .pipeStatus p =>
    if pipeNum.Covers p then some (2 * autoAck.toNat + 1) else none
  | closePipe pipeNum, .pipeStatus p => if pipeNum.Covers p then some 0 else none
  | addressWidth width, .addressWidth => some width.code.toNat
  | address pipeNum addr, .pipeAddress p j =>
    if pipeNum = .pipe p then
      if p < 2 then addressByte d addr j else if j = 0 then some (addr 0).toNat else none
    else none
  | address pipeNum addr, .txAddress j => if pipeNum = .tx then addressByte d addr j else none
  | _, _ => none

/-- The arguments that are in range: channels below 128, at most 15 retransmissions, delays of 250
to 4000 by 250, payload widths of a pipe. -/
def NrfSetter.InRange : NrfSetter → Prop
  | rfChannel channel => channel < 0x80
  | autoRetr retr delay => retr < 0x10 ∧ ∃ k : ℕ, 1 ≤ k ∧ k ≤ 16 ∧ delay = UInt16.ofNat (250 * k)
  | rxPayloadWidth pipeNum _ => ∃ p, pipeNum = .pipe p
  | _ => True

/-- The bits of the registers from `CONFIG` to `RF_SETUP`, and of `FEATURE`. -/
def fieldOfBit (r : ℕ) (i : Fin 8) : Option NrfField :=
  match r, i with
  | 0x00, 0 => some .operationMode
  | 0x00, 1 => some .powerMode
  | 0x00, 2 | 0x00, 3 => some .crcMode
  | 0x00, 4 => some (.irqMode .maxRt)
  | 0x00, 5 => some (.irqMode .txDs)
  | 0x00, 6 => some (.irqMode .rxDr)
  | 0x03, _ => some .addressWidth
  | 0x04, 0 | 0x04, 1 | 0x04, 2 | 0x04, 3 => some .autoRetrCtr
  | 0x04, _ => some .autoRetrDelay
  | 0x05, 7 => none
  | 0x05, _ => some .rfChannel
  | 0x06, 1 | 0x06, 2 => some .outputPower
  | 0x06, 3 | 0x06, 5 => some .datarate
  | 0x06, 4 => some .pllMode
  | 0x06, 7 => some .continuousWave
  | 0x1d, 0 => some .dynamicAck
  | 0x1d, 1 => some .ackPayload
  | 0x1d, 2 => some .dynamicPayload
  | _, _ => none

/-- The map of the registers: the field a bit belongs to. -/
def fieldAt (r j : ℕ) (i : Fin 8) : Option NrfField :=
  if 0x0a ≤ r ∧ r < 0x10 then some (.pipeAddress (Fin.ofNat 6 (r - 0x0a)) j)
  else if r = 0x10 then some (.txAddress j)
  else if j ≠ 0 then none
  else if 0x11 ≤ r ∧ r < 0x17 then some (.rxPayloadWidth (Fin.ofNat 6 (r - 0x11)))
  else if r = 0x01 ∨ r = 0x02 then
    if i < 6 then some (.pipeStatus (Fin.ofNat 6 i)) else none
  else fieldOfBit r i

/-! ### Bits -/

theorem getLsbD_bitMask {n : ℕ} (hn : n < 8) (i : ℕ) :
    (bitMask n).toBitVec.getLsbD i = decide (i = n) := by
  have h : (bitMask n).toBitVec = BitVec.twoPow 8 n := by
    obtain rfl | rfl | rfl | rfl | rfl | rfl | rfl | rfl :
        n = 0 ∨ n = 1 ∨ n = 2 ∨ n = 3 ∨ n = 4 ∨ n = 5 ∨ n = 6 ∨ n = 7 := by omega
    all_goals rfl
  rw [h, BitVec.getLsbD_twoPow]
  simp [hn, eq_comm]

/-- The test of a bit is that of the bit vector. -/
theorem hasBit_eq (v : UInt8) {n : ℕ} (hn : n < 8) : hasBit v n = v.toBitVec.getLsbD n := by
  have h : v &&& bitMask n = 0 ↔ v.toBitVec.getLsbD n = false := by
    rw [← UInt8.toBitVec_inj, UInt8.toBitVec_and]
    constructor
    · intro h0
      have hbit := congrArg (fun x => x.getLsbD n) h0
      simpa [getLsbD_bitMask hn] using hbit
    · intro hf
      refine BitVec.eq_of_getLsbD_eq fun i _ => ?_
      rw [BitVec.getLsbD_and, getLsbD_bitMask hn]
      rcases eq_or_ne i n with rfl | hin
      · simp [hf]
      · simp [hin]
  rw [hasBit]
  rcases hb : v.toBitVec.getLsbD n with _ | _
  · simp [h.mpr hb]
  · have hne : ¬ v &&& bitMask n = 0 := fun h0 => Bool.noConfusion (hb.symm.trans (h.mp h0))
    simp [hne]

/-- Bytes with the same bits are equal. -/
theorem eq_of_hasBit {v w : UInt8} (h : ∀ i : Fin 8, hasBit v i = hasBit w i) : v = w := by
  refine UInt8.toBitVec_inj.mp (BitVec.eq_of_getLsbD_eq fun i hi => ?_)
  rw [← hasBit_eq v hi, ← hasBit_eq w hi]
  exact h ⟨i, hi⟩

@[simp] theorem hasBit_or (v w : UInt8) (i : Fin 8) :
    hasBit (v ||| w) i = (hasBit v i || hasBit w i) := by
  rw [hasBit_eq _ i.isLt, hasBit_eq _ i.isLt, hasBit_eq _ i.isLt, UInt8.toBitVec_or,
    BitVec.getLsbD_or]

@[simp] theorem hasBit_and (v w : UInt8) (i : Fin 8) :
    hasBit (v &&& w) i = (hasBit v i && hasBit w i) := by
  rw [hasBit_eq _ i.isLt, hasBit_eq _ i.isLt, hasBit_eq _ i.isLt, UInt8.toBitVec_and,
    BitVec.getLsbD_and]

@[simp] theorem hasBit_not (v : UInt8) (i : Fin 8) : hasBit (~~~v) i = !hasBit v i := by
  rw [hasBit_eq _ i.isLt, hasBit_eq _ i.isLt, UInt8.toBitVec_not, BitVec.getLsbD_not,
    decide_eq_true i.isLt, Bool.true_and]

theorem hasBit_bitMask {n : ℕ} (hn : n < 8) (i : Fin 8) :
    hasBit (bitMask n) i = decide ((i : ℕ) = n) := by
  rw [hasBit_eq _ i.isLt, getLsbD_bitMask hn]

theorem hasBit_setBit (v : UInt8) {n : ℕ} (hn : n < 8) (i : Fin 8) :
    hasBit (setBit v n) i = (hasBit v i || decide ((i : ℕ) = n)) := by
  rw [setBit, hasBit_or, hasBit_bitMask hn]

theorem hasBit_clrBit (v : UInt8) {n : ℕ} (hn : n < 8) (i : Fin 8) :
    hasBit (clrBit v n) i = (hasBit v i && !decide ((i : ℕ) = n)) := by
  rw [clrBit, hasBit_and, hasBit_not, hasBit_bitMask hn]

/-- Setting or clearing a bit leaves the others. -/
theorem hasBit_putBit_of_ne (v : UInt8) {n : ℕ} (hn : n < 8) (on : Bool) {i : Fin 8}
    (hi : (i : ℕ) ≠ n) : hasBit (putBit n on v) i = hasBit v i := by
  rcases on with _ | _
  · simp [putBit, hasBit_clrBit v hn, hi]
  · simp [putBit, hasBit_setBit v hn, hi]

theorem hasBit_putBit_self (v : UInt8) {n : ℕ} (hn : n < 8) (on : Bool) :
    hasBit (putBit n on v) n = on := by
  obtain ⟨i, rfl⟩ : ∃ i : Fin 8, (i : ℕ) = n := ⟨⟨n, hn⟩, rfl⟩
  rcases on with _ | _
  · simp [putBit, hasBit_clrBit v hn]
  · simp [putBit, hasBit_setBit v hn]

/-- A mask keeps what the bits under it are. -/
theorem and_congr_of_hasBit {v w m : UInt8}
    (h : ∀ i : Fin 8, hasBit m i = true → hasBit v i = hasBit w i) : v &&& m = w &&& m := by
  refine eq_of_hasBit fun i => ?_
  rw [hasBit_and, hasBit_and]
  rcases hm : hasBit m i with _ | _
  · rw [Bool.and_false, Bool.and_false]
  · rw [h i hm]

/-! ### Transfers that succeed -/

namespace RegFile

variable (s : NrfSt RegFile)

theorem write_singleton (d : RegFile) (r : ℕ) (v : UInt8) : d.write r [v] = d.put r v := by
  funext r' j
  rw [write, put]
  have hsize : 0 < size r := by
    rw [size]
    split <;> decide
  have hiff : (r' = r ∧ j < [v].length ∧ j < size r) ↔ r' = r ∧ j = 0 := by
    rw [List.length_singleton]
    omega
  by_cases h : r' = r ∧ j = 0
  · rw [if_pos (hiff.mpr h), if_pos h, h.2]
    rfl
  · rw [if_neg fun h' => h (hiff.mp h'), if_neg h]

theorem answer_read {reg : UInt8} (h : reg < Nrf.wRegister) (d : RegFile) (data : List UInt8) :
    answer d (reg :: data) = (fun i => if i = 0 then d 0x07 0 else d reg.toNat (i - 1), d) :=
  if_pos h

theorem answer_write {reg : UInt8} (h : reg < Nrf.wRegister) (d : RegFile) (data : List UInt8) :
    answer d ((Nrf.wRegister + reg) :: data) =
      (fun _ => d 0x07 0, d.write reg.toNat data) := by
  have hlt : reg.toNat < 32 := h
  have hadd : (Nrf.wRegister + reg).toNat = 32 + reg.toNat := by
    rw [UInt8.toNat_add, show Nrf.wRegister.toNat = 32 from rfl]
    omega
  have h1 : ¬ Nrf.wRegister + reg < Nrf.wRegister := by
    rw [UInt8.lt_iff_toNat_lt, hadd]
    exact Nat.not_lt.mpr (Nat.le_add_right 32 _)
  have h2 : Nrf.wRegister + reg < 2 * Nrf.wRegister := by
    rw [UInt8.lt_iff_toNat_lt, hadd, show (2 * Nrf.wRegister).toNat = 64 from rfl]
    omega
  rw [answer, if_neg h1, if_pos h2, UInt8.add_comm, UInt8.add_sub_cancel]

theorem nrfTransmit_bus (tx : List UInt8) :
    nrfTransmit bus tx s =
      ((answer s.dev tx).1, ⟨(answer s.dev tx).2, s.n + 1, false, s.sent ++ [tx]⟩) := rfl

theorem nrfM_bind {δ α β : Type} (m : NrfM δ α) (f : α → NrfM δ β) (s : NrfSt δ) :
    (m >>= f) s = f (m s).1 (m s).2 := rfl

theorem nrfM_pure {δ α : Type} (x : α) (s : NrfSt δ) : (pure x : NrfM δ α) s = (x, s) := rfl

theorem chkSpiErr_ok {δ : Type} {s : NrfSt δ} (next : NrfM δ Unit) (h : s.ecomm = false) :
    chkSpiErr next s = next s := by
  rw [chkSpiErr, h]
  rfl

/-- A read that succeeds. -/
theorem halNrfReadReg_bus {reg : UInt8} (h : reg < Nrf.wRegister) :
    halNrfReadReg bus reg s =
      (s.dev reg.toNat 0, ⟨s.dev, s.n + 1, false, s.sent ++ [[reg, 0]]⟩) := by
  rw [halNrfReadReg, nrfM_bind, nrfTransmit_bus, answer_read h]
  rfl

/-- A write that succeeds. -/
theorem halNrfSetReg_bus {reg : UInt8} (h : reg < Nrf.wRegister) (v : UInt8) :
    halNrfSetReg bus reg v s =
      ((), ⟨s.dev.put reg.toNat v, s.n + 1, false, s.sent ++ [[Nrf.wRegister + reg, v]]⟩) := by
  rw [halNrfSetReg, nrfM_bind, halNrfWriteReg, nrfM_bind, nrfTransmit_bus, answer_write h,
    write_singleton]
  rfl

/-- A change of a register that succeeds. -/
theorem halNrfUpdateReg_bus {reg : UInt8} (h : reg < Nrf.wRegister) (f : UInt8 → UInt8) :
    (halNrfUpdateReg bus reg f s).2.dev = s.dev.put reg.toNat (f (s.dev reg.toNat 0)) := by
  rw [halNrfUpdateReg, nrfM_bind, halNrfReadReg_bus s h, chkSpiErr_ok _ rfl,
    halNrfSetReg_bus _ h]

/-- A change of the two registers of the pipes that succeeds. -/
theorem halNrfUpdatePipes_bus (change : Option (UInt8 × UInt8 → UInt8 × UInt8)) :
    (halNrfUpdatePipes bus change s).2.dev =
      match change with
      | none => s.dev
      | some f => (s.dev.put 0x02 (f (s.dev 0x02 0, s.dev 0x01 0)).1).put 0x01
          (f (s.dev 0x02 0, s.dev 0x01 0)).2 := by
  have hrx : Nrf.enRxaddr < Nrf.wRegister := by decide
  have haa : Nrf.enAa < Nrf.wRegister := by decide
  rw [halNrfUpdatePipes, nrfM_bind, halNrfReadReg_bus s hrx, chkSpiErr_ok _ rfl, nrfM_bind,
    halNrfReadReg_bus _ haa, chkSpiErr_ok _ rfl]
  rcases change with _ | f
  · rfl
  · show (((do
      halNrfSetReg bus Nrf.enRxaddr _
      chkSpiErr (halNrfSetReg bus Nrf.enAa _)) : NrfM RegFile Unit) _).2.dev = _
    rw [nrfM_bind, halNrfSetReg_bus _ hrx, chkSpiErr_ok _ rfl, halNrfSetReg_bus _ haa]
    rfl

end RegFile

/-! ### What the getters tell -/

/-- What the registers hold of a field. -/
def NrfField.held (d : RegFile) : NrfField → ℕ
  | operationMode =>
    (if hasBit (d 0x00 0) 0 then HalNrfOperationMode.prx else HalNrfOperationMode.ptx).code
  | powerMode =>
    (if hasBit (d 0x00 0) 1 then HalNrfPwrMode.pwrUp else HalNrfPwrMode.pwrDown).code
  | crcMode =>
    (if hasBit (d 0x00 0) 3 then
      if hasBit (d 0x00 0) 2 then HalNrfCrcMode.bit16 else HalNrfCrcMode.bit8
    else HalNrfCrcMode.off).code
  | irqMode intSource => (!hasBit (d 0x00 0) intSource.maskBit).toNat
  | dynamicPayload => (hasBit (d 0x1d 0) 2).toNat
  | ackPayload => (hasBit (d 0x1d 0) 1).toNat
  | dynamicAck => (hasBit (d 0x1d 0) 0).toNat
  | rfChannel => (d 0x05 0 &&& 0x7f).toNat
  | outputPower => ((d 0x06 0 >>> 1) &&& 3).toNat
  | datarate => (((d 0x06 0 &&& bitMask 5) <<< 1) ||| (d 0x06 0 &&& bitMask 3)).toNat
  | pllMode => (hasBit (d 0x06 0) 4).toNat
  | continuousWave => (hasBit (d 0x06 0) 7).toNat
  | autoRetrCtr => (d 0x04 0 &&& 0x0f).toNat
  | autoRetrDelay => ((((d 0x04 0 >>> 4) &&& 0x0f).toUInt16 + 1) * 250).toNat
  | rxPayloadWidth p => (d (0x11 + p) 0).toNat
  | pipeStatus p => 2 * (hasBit (d 0x01 0) p).toNat + (hasBit (d 0x02 0) p).toNat
  | addressWidth => (d 0x03 0 + 2).toNat
  | pipeAddress p j => (d (0x0a + p) j).toNat
  | txAddress j => (d 0x10 j).toNat

/-- A byte of an address is told up to the current width, and of the pipes from 2 on the first
byte alone. -/
def NrfField.Shown (d : RegFile) : NrfField → Prop
  | pipeAddress p j => if p < 2 then j < (d 0x03 0 + 2).toNat else j = 0
  | txAddress j => j < (d 0x03 0 + 2).toNat
  | _ => True

section Getters

open RegFile

variable (d : RegFile)

theorem result_pipeStatus (p : Fin 6) :
    (d.result (halNrfGetPipeStatus bus (.pipe p))).toNat =
      2 * (hasBit (d 0x01 0) p).toNat + (hasBit (d 0x02 0) p).toNat := by
  have hrx : Nrf.enRxaddr < Nrf.wRegister := by decide
  have haa : Nrf.enAa < Nrf.wRegister := by decide
  rw [result, halNrfGetPipeStatus, nrfM_bind, halNrfReadReg_bus _ hrx]
  simp only [Bool.false_eq_true, if_false, halNrfReadReg_bus _ haa]
  show (((hasBit (d 0x01 0) p).toUInt8 <<< 1) + (hasBit (d 0x02 0) p).toUInt8).toNat = _
  rcases hasBit (d 0x01 0) p with _ | _ <;> rcases hasBit (d 0x02 0) p with _ | _ <;> rfl

/-- The bytes of a register, as many as asked for. -/
theorem halNrfReadBytes_bus {cmd : UInt8} (h : cmd < Nrf.wRegister) (reg length : UInt8)
    (s : NrfSt RegFile) :
    (halNrfReadBytes bus cmd reg length s).1.2 =
      (List.range length.toNat).map (s.dev cmd.toNat) := by
  rw [halNrfReadBytes]
  split
  · rw [nrfM_bind, nrfTransmit_bus, answer_read h, nrfM_pure]
    exact List.map_congr_left fun _ _ => rfl
  · rename_i hlen
    have h0 : length.toNat = 0 := Nat.eq_zero_of_not_pos hlen
    rw [h0]
    rfl

/-- The multi-byte address of a pipe or of the transmitter, as many bytes as the current width. -/
theorem result_address {reg : UInt8} (hreg : reg = 0 ∨ reg = 1 ∨ reg = 6) :
    (d.result (halNrfReadMultibyteReg bus reg 0)).2 =
      (List.range (d 0x03 0 + 2).toNat).map (d (0x0a + reg.toNat)) := by
  have haw : Nrf.setupAw < Nrf.wRegister := by decide
  have hcmd : Nrf.rxAddrP0 + reg < Nrf.wRegister := by rcases hreg with rfl | rfl | rfl <;> decide
  have hadd : (Nrf.rxAddrP0 + reg).toNat = 0x0a + reg.toNat := by
    rcases hreg with rfl | rfl | rfl <;> rfl
  rw [result, halNrfReadMultibyteReg, if_pos hreg, halNrfReadSized, if_pos rfl, nrfM_bind,
    halNrfGetAddressWidth, nrfM_bind, halNrfReadReg_bus _ haw]
  simp only [nrfM_pure, Bool.false_eq_true, if_false]
  rw [halNrfReadBytes_bus hcmd, hadd]
  rfl

theorem result_address_pipe (p : Fin 6) :
    (d.result (halNrfGetAddress bus (.pipe p))).2 =
      if p < 2 then (List.range (d 0x03 0 + 2).toNat).map (d (0x0a + p)) else [d (0x0a + p) 0] := by
  rw [result, halNrfGetAddress]
  split
  · rename_i hp
    have hreg : UInt8.ofNat p = 0 ∨ UInt8.ofNat p = 1 ∨ UInt8.ofNat p = 6 := by
      obtain rfl | rfl : p = 0 ∨ p = 1 := by omega
      · exact Or.inl rfl
      · exact Or.inr (Or.inl rfl)
    have hnat : (UInt8.ofNat p).toNat = p := by
      rw [UInt8.toNat_ofNat']
      omega
    have h := result_address d hreg
    rw [hnat] at h
    exact h
  · have hlt : Nrf.rxAddrP0 + UInt8.ofNat p < Nrf.wRegister := by
      revert p
      decide
    have hadd : (Nrf.rxAddrP0 + UInt8.ofNat p).toNat = 0x0a + p := by
      revert p
      decide
    rw [nrfM_bind, HalNrfAddress.code, halNrfReadReg_bus _ hlt, nrfM_pure, hadd]

theorem result_rxPayloadWidth (p : Fin 6) :
    d.result (halNrfGetRxPayloadWidth bus (.pipe p)) = d (0x11 + p) 0 := by
  have hlt : Nrf.rxPwP0 + UInt8.ofNat p < Nrf.wRegister := by
    revert p
    decide
  have hadd : (Nrf.rxPwP0 + UInt8.ofNat p).toNat = 0x11 + p := by
    revert p
    decide
  rw [result, halNrfGetRxPayloadWidth, HalNrfAddress.code, halNrfReadReg_bus _ hlt, hadd]

theorem getElem?_map_range (g : ℕ → UInt8) (n j : ℕ) :
    (((List.range n).map g)[j]?).map UInt8.toNat = if j < n then some (g j).toNat else none := by
  rw [List.getElem?_map]
  split
  · rename_i h
    rw [List.getElem?_range h]
    rfl
  · rename_i h
    rw [List.getElem?_eq_none (by rw [List.length_range]; omega)]
    rfl

theorem get_txAddress (j : ℕ) :
    (NrfField.txAddress j).get d =
      if j < (d 0x03 0 + 2).toNat then some (d 0x10 j).toNat else none := by
  have h : (d.result (halNrfGetAddress bus .tx)).2 =
      (List.range (d 0x03 0 + 2).toNat).map (d 0x10) := result_address d (Or.inr (Or.inr rfl))
  rw [NrfField.get, h, getElem?_map_range]

theorem get_pipeAddress (p : Fin 6) (j : ℕ) :
    (NrfField.pipeAddress p j).get d =
      if if p < 2 then j < (d 0x03 0 + 2).toNat else j = 0 then some (d (0x0a + p) j).toNat
      else none := by
  rw [NrfField.get, result_address_pipe]
  split
  · rw [getElem?_map_range]
  · rcases j with _ | j
    · rfl
    · rfl

/-- A getter tells what the registers hold. -/
theorem get_eq_some {f : NrfField} (h : f.Shown d) : f.get d = some (f.held d) := by
  cases f with
  | rxPayloadWidth p => exact congrArg (fun v => some v.toNat) (result_rxPayloadWidth d p)
  | pipeStatus p => exact congrArg some (result_pipeStatus d p)
  | pipeAddress p j => exact (get_pipeAddress d p j).trans (if_pos h)
  | txAddress j => exact (get_txAddress d j).trans (if_pos h)
  | _ => rfl

/-- A byte that is not shown is not told. -/
theorem get_eq_none {f : NrfField} (h : ¬ f.Shown d) : f.get d = none := by
  cases f with
  | pipeAddress p j => exact (get_pipeAddress d p j).trans (if_neg h)
  | txAddress j => exact (get_txAddress d j).trans (if_neg h)
  | _ => exact absurd trivial h

end Getters

/-! ### What the setters change -/

section Setters

open RegFile

variable {c : NrfSetter} {d : RegFile}

/-- A call leaves the bits of the fields it does not set. -/
def Frames (c : NrfSetter) (d : RegFile) : Prop :=
  ∀ r j i f, fieldAt r j i = some f → c.value d f = none →
    hasBit (c.apply d r j) i = hasBit (d r j) i

theorem put_self (d : RegFile) (r : ℕ) (v : UInt8) : d.put r v r 0 = v := if_pos ⟨rfl, rfl⟩

theorem put_of_ne {r r' : ℕ} (h : r' ≠ r) (v : UInt8) (j : ℕ) : d.put r v r' j = d r' j :=
  if_neg fun hr => h hr.1

/-- The bit of a field that is not set is not one of a field that is set. -/
theorem ne_of_owned {reg j : ℕ} {i n : Fin 8} {f g : NrfField} (hown : fieldAt reg j n = some g)
    (hset : c.value d g ≠ none) (hf : fieldAt reg j i = some f) (hnone : c.value d f = none) :
    (i : ℕ) ≠ n := by
  intro hi
  obtain rfl := Fin.ext hi
  obtain rfl := Option.some.inj (hown.symm.trans hf)
  exact hset hnone

/-- A call that writes one register. -/
theorem frames_put {reg : ℕ} {v : UInt8} (hc : c.apply d = d.put reg v)
    (hv : ∀ i f, fieldAt reg 0 i = some f → c.value d f = none →
      hasBit v i = hasBit (d reg 0) i) : Frames c d := by
  intro r j i f hf hnone
  rw [hc, put]
  split
  · rename_i h
    obtain ⟨rfl, rfl⟩ := h
    exact hv i f hf hnone
  · rfl

theorem apply_update {reg : UInt8} (h : reg < Nrf.wRegister) (f : UInt8 → UInt8) :
    d.after (halNrfUpdateReg bus reg f) = d.put reg.toNat (f (d reg.toNat 0)) :=
  halNrfUpdateReg_bus _ h f

theorem apply_set {reg : UInt8} (h : reg < Nrf.wRegister) (v : UInt8) :
    d.after (halNrfSetReg bus reg v) = d.put reg.toNat v := by
  rw [after, halNrfSetReg_bus _ h]

theorem apply_outputPower (power : HalNrfOutputPower) :
    (NrfSetter.outputPower power).apply d = d.put 0x06 (powerBits power (d 0x06 0)) := by
  have h : Nrf.rfSetup < Nrf.wRegister := by decide
  show (halNrfSetOutputPower bus power ⟨d, 0, false, []⟩).2.dev = _
  rw [halNrfSetOutputPower, nrfM_bind, halNrfReadReg_bus _ h, halNrfSetReg_bus _ h]
  rfl

theorem apply_rxPayloadWidth (p : Fin 6) (ploadWidth : UInt8) :
    (NrfSetter.rxPayloadWidth (.pipe p) ploadWidth).apply d = d.put (0x11 + p) ploadWidth := by
  have h : ∀ p : Fin 6, Nrf.rxPwP0 + UInt8.ofNat p < Nrf.wRegister ∧
      (Nrf.rxPwP0 + UInt8.ofNat p).toNat = 0x11 + p := by decide
  rw [← (h p).2]
  exact apply_set (h p).1 ploadWidth

/-- What a call for pipes makes of `EN_RXADDR` and `EN_AA`. -/
theorem apply_updatePipes (f : UInt8 × UInt8 → UInt8 × UInt8) :
    d.after (halNrfUpdatePipes bus (some f)) =
      (d.put 0x02 (f (d 0x02 0, d 0x01 0)).1).put 0x01 (f (d 0x02 0, d 0x01 0)).2 :=
  halNrfUpdatePipes_bus _ (some f)

/-- The address of pipes 0 and 1 and of the transmitter, of the current width. -/
theorem apply_multibyte {code : UInt8} (h : Nrf.rxAddrP0 + code < Nrf.wRegister)
    (addr : ℕ → UInt8) :
    d.after (do
      let width ← halNrfGetAddressWidth bus
      halNrfWriteMultibyteReg bus (Nrf.wRegister + Nrf.rxAddrP0 + code) addr width) =
      d.write (Nrf.rxAddrP0 + code).toNat
        ((List.range (d 0x03 0 + 2).toNat).map addr) := by
  have haw : Nrf.setupAw < Nrf.wRegister := by decide
  rw [after, nrfM_bind, halNrfGetAddressWidth, nrfM_bind, halNrfReadReg_bus _ haw, nrfM_pure,
    halNrfWriteMultibyteReg, nrfM_bind, nrfTransmit_bus, UInt8.add_assoc, answer_write h]
  rfl

theorem apply_address_pipe (p : Fin 6) (addr : ℕ → UInt8) :
    (NrfSetter.address (.pipe p) addr).apply d =
      if p < 2 then d.write (0x0a + p) ((List.range (d 0x03 0 + 2).toNat).map addr)
      else d.put (0x0a + p) (addr 0) := by
  have h : ∀ p : Fin 6, Nrf.rxAddrP0 + UInt8.ofNat p < Nrf.wRegister ∧
      (Nrf.rxAddrP0 + UInt8.ofNat p).toNat = 0x0a + p := by decide
  rw [← (h p).2, NrfSetter.apply, NrfSetter.exec, halNrfSetAddress]
  split
  · exact apply_multibyte (h p).1 addr
  · exact apply_set (h p).1 (addr 0)

theorem apply_address_tx (addr : ℕ → UInt8) :
    (NrfSetter.address .tx addr).apply d =
      d.write 0x10 ((List.range (d 0x03 0 + 2).toNat).map addr) :=
  apply_multibyte (by decide) addr

/-! ### The map of the registers -/

theorem fieldAt_pipeAddress (p : Fin 6) (j : ℕ) (i : Fin 8) :
    fieldAt (0x0a + p) j i = some (.pipeAddress p j) := by
  rw [fieldAt, if_pos ⟨by omega, by omega⟩, Nat.add_sub_cancel_left]
  exact congrArg (fun q => some (NrfField.pipeAddress q j)) (Fin.ofNat_val_eq_self p)

theorem fieldAt_rxPayloadWidth (p : Fin 6) (i : Fin 8) :
    fieldAt (0x11 + p) 0 i = some (.rxPayloadWidth p) := by
  rw [fieldAt, if_neg (by omega), if_neg (by omega), if_neg (by omega), if_pos ⟨by omega, by omega⟩,
    Nat.add_sub_cancel_left]
  exact congrArg (fun q => some (NrfField.rxPayloadWidth q)) (Fin.ofNat_val_eq_self p)

/-- The bit of a pipe in `EN_AA` and `EN_RXADDR`. -/
theorem fieldAt_pipeStatus {r : ℕ} (hr : r = 0x01 ∨ r = 0x02) {i : Fin 8} {f : NrfField}
    (h : fieldAt r 0 i = some f) : ∃ p : Fin 6, (p : ℕ) = i ∧ f = .pipeStatus p := by
  rw [fieldAt, if_neg (by omega), if_neg (by omega), if_neg (by omega), if_neg (by omega),
    if_pos hr] at h
  split at h
  · rename_i hi
    have hlt : (i : ℕ) < 6 := hi
    exact ⟨⟨i, hlt⟩, rfl, by
      rw [← Option.some.inj h]
      exact congrArg NrfField.pipeStatus (Fin.ext (Nat.mod_eq_of_lt hlt))⟩
  · exact nomatch h

/-! ### Frames -/

/-- A call that sets or clears the bit of a field. -/
theorem frames_bit (reg : UInt8) (n : Fin 8) (on : Bool) (g : NrfField) (h : reg < Nrf.wRegister)
    (hc : c.apply d = d.after (halNrfUpdateReg bus reg (putBit n on)))
    (hown : fieldAt reg.toNat 0 n = some g) (hset : c.value d g ≠ none) : Frames c d :=
  frames_put (hc.trans (apply_update h _)) fun _ _ hf hnone =>
    hasBit_putBit_of_ne _ n.isLt on (ne_of_owned hown hset hf hnone)

/-- A call that sets a byte of an address sets all that it writes. -/
theorem frames_write {reg : ℕ} {bytes : List UInt8} (hc : c.apply d = d.write reg bytes)
    (hv : ∀ j i f, j < bytes.length → j < size reg → fieldAt reg j i = some f →
      c.value d f ≠ none) : Frames c d := by
  intro r j i f hf hnone
  rw [hc, write]
  split
  · rename_i h
    obtain ⟨rfl, hlen, hsize⟩ := h
    exact absurd hnone (hv j i f hlen hsize hf)
  · rfl

/-- A call for pipes, that leaves the pipes it is not for. -/
theorem frames_pipes (f : UInt8 × UInt8 → UInt8 × UInt8)
    (hc : c.apply d = d.after (halNrfUpdatePipes bus (some f)))
    (hv : ∀ (p : Fin 6) (i : Fin 8), (p : ℕ) = i → c.value d (.pipeStatus p) = none → ∀ v w,
      hasBit (f (v, w)).1 i = hasBit v i ∧ hasBit (f (v, w)).2 i = hasBit w i) : Frames c d := by
  intro r j i g hg hnone
  rw [hc, apply_updatePipes]
  by_cases h : (r = 0x01 ∨ r = 0x02) ∧ j = 0
  · obtain ⟨hr, rfl⟩ := h
    obtain ⟨p, hp, rfl⟩ := fieldAt_pipeStatus hr hg
    have hbits := hv p i hp hnone (d 0x02 0) (d 0x01 0)
    rcases hr with rfl | rfl
    · rw [put_self]
      exact hbits.2
    · rw [put_of_ne (by decide), put_self]
      exact hbits.1
  · rw [put, if_neg (by omega), put, if_neg (by omega)]

/-- A call that writes a register all of whose fields it sets. -/
theorem frames_whole {reg : ℕ} {v : UInt8} (hc : c.apply d = d.put reg v)
    (hset : ∀ i f, fieldAt reg 0 i = some f → c.value d f ≠ none) : Frames c d :=
  frames_put hc fun i f hf hnone => absurd hnone (hset i f hf)

theorem hasBit_crcBits (mode : HalNrfCrcMode) (v : UInt8) {i : Fin 8} (h2 : (i : ℕ) ≠ 2)
    (h3 : (i : ℕ) ≠ 3) : hasBit (crcBits mode v) i = hasBit v i := by
  cases mode <;> simp [crcBits, hasBit_setBit, hasBit_clrBit, h2, h3]

theorem hasBit_datarateBits (rate : HalNrfDatarate) (v : UInt8) {i : Fin 8} (h3 : (i : ℕ) ≠ 3)
    (h5 : (i : ℕ) ≠ 5) : hasBit (datarateBits rate v) i = hasBit v i := by
  cases rate <;> simp [datarateBits, hasBit_setBit, hasBit_clrBit, h3, h5]

theorem hasBit_powerBits (power : HalNrfOutputPower) (v : UInt8) {i : Fin 8} (h1 : (i : ℕ) ≠ 1)
    (h2 : (i : ℕ) ≠ 2) : hasBit (powerBits power v) i = hasBit v i := by
  have hcode : ∀ i : Fin 8, (i : ℕ) ≠ 1 → (i : ℕ) ≠ 2 →
      hasBit ((power.code &&& 3) <<< 1) i = false := by cases power <;> decide
  rw [powerBits, hasBit_or, hcode i h1 h2, Bool.or_false, hasBit_and, hasBit_not, hasBit_or,
    hasBit_bitMask (by decide), hasBit_bitMask (by decide), decide_eq_false h1, decide_eq_false h2]
  simp

theorem frames_autoRetr (retr : UInt8) (delay : UInt16) : Frames (.autoRetr retr delay) d := by
  have hmap : ∀ i : Fin 8, fieldAt 0x04 0 i = some .autoRetrCtr ∨
      fieldAt 0x04 0 i = some .autoRetrDelay := by decide
  refine frames_whole (apply_set (by decide) _) fun i f hf => ?_
  rcases hmap i with h | h
  · obtain rfl := Option.some.inj (h.symm.trans hf)
    nofun
  · obtain rfl := Option.some.inj (h.symm.trans hf)
    nofun

theorem frames_irqMode (src : HalNrfIrqSource) (on : Bool) : Frames (.irqMode src on) d := by
  have hset : (NrfSetter.irqMode src on).value d (.irqMode src) ≠ none := by
    simp [NrfSetter.value]
  cases src with
  | maxRt => exact frames_bit Nrf.config 4 _ _ (by decide) rfl rfl hset
  | txDs => exact frames_bit Nrf.config 5 _ _ (by decide) rfl rfl hset
  | rxDr => exact frames_bit Nrf.config 6 _ _ (by decide) rfl rfl hset

/-- A call for no pipe. -/
theorem frames_none (hc : c.apply d = d.after (halNrfUpdatePipes bus none)) : Frames c d := by
  intro r j i f _ _
  rw [hc, after, halNrfUpdatePipes_bus]

theorem ne_of_not_covers {p q : Fin 6} {v : Option ℕ} {w : ℕ}
    (h : (if (HalNrfAddress.pipe q).Covers p then some w else v) = none) : (p : ℕ) ≠ q := by
  intro hpq
  obtain rfl := Fin.ext hpq
  rw [if_pos (HalNrfAddress.covers_pipe p)] at h
  exact nomatch h

theorem frames_openPipe (pipeNum : HalNrfAddress) (autoAck : Bool) :
    Frames (.openPipe pipeNum autoAck) d := by
  cases pipeNum with
  | pipe q =>
    refine frames_pipes (fun r => (setBit r.1 q, putBit q autoAck r.2)) rfl fun p i hi hp v w => ?_
    have hlt : (q : ℕ) < 8 := by omega
    have hne : (i : ℕ) ≠ q := hi ▸ ne_of_not_covers hp
    refine ⟨?_, hasBit_putBit_of_ne w hlt autoAck hne⟩
    exact hasBit_putBit_of_ne v hlt true hne
  | all =>
    refine frames_pipes (fun _ => (0x3f, if autoAck then 0x3f else 0)) rfl fun p i hi hp => ?_
    rw [NrfSetter.value, if_pos (HalNrfAddress.covers_all p)] at hp
    exact nomatch hp
  | tx => exact frames_none rfl

theorem frames_closePipe (pipeNum : HalNrfAddress) : Frames (.closePipe pipeNum) d := by
  cases pipeNum with
  | pipe q =>
    refine frames_pipes (fun r => (clrBit r.1 q, clrBit r.2 q)) rfl fun p i hi hp v w => ?_
    have hlt : (q : ℕ) < 8 := by omega
    have hne : (i : ℕ) ≠ q := hi ▸ ne_of_not_covers hp
    exact ⟨hasBit_putBit_of_ne v hlt false hne, hasBit_putBit_of_ne w hlt false hne⟩
  | all =>
    refine frames_pipes (fun _ => (0, 0)) rfl fun p i hi hp => ?_
    rw [NrfSetter.value, if_pos (HalNrfAddress.covers_all p)] at hp
    exact nomatch hp
  | tx => exact frames_none rfl

theorem frames_address (pipeNum : HalNrfAddress) (addr : ℕ → UInt8) :
    Frames (.address pipeNum addr) d := by
  have hshort : ∀ {bytes : List UInt8} {j : ℕ}, bytes = (List.range (d 0x03 0 + 2).toNat).map addr →
      j < bytes.length → j < 5 → addressByte d addr j ≠ none := by
    intro bytes j hbytes hlen hsize
    rw [hbytes, List.length_map, List.length_range] at hlen
    rw [addressByte, if_pos ⟨hlen, hsize⟩]
    nofun
  have hsize : ∀ r, size r ≤ 5 := by
    intro r
    rw [size]
    split <;> decide
  cases pipeNum with
  | pipe q =>
    by_cases hq : q < 2
    · refine frames_write ((apply_address_pipe q addr).trans (if_pos hq)) fun j i f hlen hj hf => ?_
      obtain rfl := Option.some.inj ((fieldAt_pipeAddress q j i).symm.trans hf)
      rw [NrfSetter.value, if_pos rfl, if_pos hq]
      exact hshort rfl hlen (hj.trans_le (hsize _))
    · refine frames_whole ((apply_address_pipe q addr).trans (if_neg hq)) fun i f hf => ?_
      obtain rfl := Option.some.inj ((fieldAt_pipeAddress q 0 i).symm.trans hf)
      rw [NrfSetter.value, if_pos rfl, if_neg hq, if_pos rfl]
      nofun
  | all => exact fun _ _ _ _ _ _ => rfl
  | tx =>
    refine frames_write (apply_address_tx addr) fun j i f hlen hj hf => ?_
    obtain rfl := Option.some.inj (hf : some (NrfField.txAddress j) = some f)
    rw [NrfSetter.value, if_pos rfl]
    exact hshort rfl hlen (hj.trans_le (hsize _))

/-- **Frame.** A call leaves the bits of the fields it does not set. The cases are those of the
setters, each by its shape: a bit, a whole register, the bits of pipes, the bytes of an
address. -/
theorem frames_of_inRange (h : c.InRange) : Frames c d := by
  cases c with
  | operationMode opMode =>
    exact frames_bit Nrf.config 0 _ .operationMode (by decide) rfl rfl nofun
  | powerMode pwrMode =>
    exact frames_bit Nrf.config 1 _ .powerMode (by decide) rfl rfl nofun
  | crcMode mode =>
    refine frames_put (apply_update (by decide) _) fun i f hf hnone => ?_
    have hset : (NrfSetter.crcMode mode).value d .crcMode ≠ none := nofun
    exact hasBit_crcBits mode _ (ne_of_owned rfl hset hf hnone : (i : ℕ) ≠ (2 : Fin 8))
      (ne_of_owned rfl hset hf hnone : (i : ℕ) ≠ (3 : Fin 8))
  | irqMode intSource irqState => exact frames_irqMode intSource irqState
  | dynamicPayload enable =>
    exact frames_bit Nrf.feature 2 _ .dynamicPayload (by decide) rfl rfl nofun
  | ackPayload enable =>
    exact frames_bit Nrf.feature 1 _ .ackPayload (by decide) rfl rfl nofun
  | dynamicAck enable =>
    exact frames_bit Nrf.feature 0 _ .dynamicAck (by decide) rfl rfl nofun
  | setupDynamicPayload setup =>
    have hmap : ∀ i : Fin 8, fieldAt 0x1c 0 i = none := by decide
    exact frames_whole (apply_set (by decide) _) fun i f hf => nomatch (hmap i).symm.trans hf
  | rfChannel channel =>
    have hmap : ∀ i : Fin 8, fieldAt 0x05 0 i = some .rfChannel ∨ fieldAt 0x05 0 i = none := by
      decide
    refine frames_whole (apply_set (by decide) _) fun i f hf => ?_
    rcases hmap i with h' | h'
    · obtain rfl := Option.some.inj (h'.symm.trans hf)
      nofun
    · exact nomatch h'.symm.trans hf
  | outputPower power =>
    refine frames_put (apply_outputPower power) fun i f hf hnone => ?_
    have hset : (NrfSetter.outputPower power).value d .outputPower ≠ none := nofun
    exact hasBit_powerBits power _ (ne_of_owned rfl hset hf hnone : (i : ℕ) ≠ (1 : Fin 8))
      (ne_of_owned rfl hset hf hnone : (i : ℕ) ≠ (2 : Fin 8))
  | datarate rate =>
    refine frames_put (apply_update (by decide) _) fun i f hf hnone => ?_
    have hset : (NrfSetter.datarate rate).value d .datarate ≠ none := nofun
    exact hasBit_datarateBits rate _ (ne_of_owned rfl hset hf hnone : (i : ℕ) ≠ (3 : Fin 8))
      (ne_of_owned rfl hset hf hnone : (i : ℕ) ≠ (5 : Fin 8))
  | pllMode pllLock => exact frames_bit Nrf.rfSetup 4 _ .pllMode (by decide) rfl rfl nofun
  | continuousWave enable =>
    exact frames_bit Nrf.rfSetup 7 _ .continuousWave (by decide) rfl rfl nofun
  | autoRetr retr delay => exact frames_autoRetr retr delay
  | rxPayloadWidth pipeNum ploadWidth =>
    obtain ⟨p, rfl⟩ := h
    refine frames_whole (apply_rxPayloadWidth p ploadWidth) fun i f hf => ?_
    obtain rfl := Option.some.inj ((fieldAt_rxPayloadWidth p i).symm.trans hf)
    simp [NrfSetter.value]
  | openPipe pipeNum autoAck => exact frames_openPipe pipeNum autoAck
  | closePipe pipeNum => exact frames_closePipe pipeNum
  | addressWidth width =>
    have hmap : ∀ i : Fin 8, fieldAt 0x03 0 i = some .addressWidth := by decide
    refine frames_whole (apply_set (by decide) _) fun i f hf => ?_
    obtain rfl := Option.some.inj ((hmap i).symm.trans hf)
    nofun
  | address pipeNum addr => exact frames_address pipeNum addr

/-! ### The fields a call sets -/

/-- What the getter of a field tells once it is set to a value: the value, but for the data rate,
which is told by its bits, moved. -/
def NrfField.told : NrfField → ℕ → ℕ
  | datarate, 1 => 0x08
  | datarate, 2 => 0x40
  | _, v => v

/-- A field of one bit. -/
theorem flag_held (v : UInt8) {n : ℕ} (hn : n < 8) (on : Bool) :
    (hasBit (putBit n on v) n).toNat = on.toNat := by
  rw [hasBit_putBit_self v hn]

theorem operationMode_held (opMode : HalNrfOperationMode) (v : UInt8) :
    (if hasBit (putBit 0 (opMode = .prx) v) 0 then HalNrfOperationMode.prx else .ptx).code =
      opMode.code := by
  rw [hasBit_putBit_self v (by omega)]
  cases opMode <;> rfl

theorem powerMode_held (pwrMode : HalNrfPwrMode) (v : UInt8) :
    (if hasBit (putBit 1 (pwrMode = .pwrUp) v) 1 then HalNrfPwrMode.pwrUp else .pwrDown).code =
      pwrMode.code := by
  rw [hasBit_putBit_self v (by omega)]
  cases pwrMode <;> rfl

/-- An interrupt is on while its mask bit is clear. -/
theorem irqMode_held (src : HalNrfIrqSource) (irqState : Bool) (v : UInt8) :
    (!hasBit (putBit src.maskBit (!irqState) v) src.maskBit).toNat = irqState.toNat := by
  have hlt : src.maskBit < 8 := by cases src <;> decide
  rw [hasBit_putBit_self v hlt, Bool.not_not]

theorem crcBits_held (mode : HalNrfCrcMode) (v : UInt8) :
    (if hasBit (crcBits mode v) 3 then
      if hasBit (crcBits mode v) 2 then HalNrfCrcMode.bit16 else .bit8
    else .off) = mode := by
  have hself := fun w on => hasBit_putBit_self w (n := 2) (by omega) on
  have hhigh : ∀ on, hasBit (putBit 2 on (putBit 3 true v)) 3 = true := fun on =>
    (hasBit_putBit_of_ne (putBit 3 true v) (by omega) on (i := (3 : Fin 8)) (by decide)).trans
      (hasBit_putBit_self v (by omega) true)
  cases mode with
  | off =>
    have hoff : hasBit (crcBits .off v) 3 = false := hasBit_putBit_self v (by omega) false
    rw [hoff, if_neg (by decide)]
  | bit8 =>
    have hlow : hasBit (crcBits .bit8 v) 2 = false := hself (putBit 3 true v) false
    have h3 : hasBit (crcBits .bit8 v) 3 = true := hhigh false
    rw [h3, hlow, if_pos rfl, if_neg (by decide)]
  | bit16 =>
    have hlow : hasBit (crcBits .bit16 v) 2 = true := hself (putBit 3 true v) true
    have h3 : hasBit (crcBits .bit16 v) 3 = true := hhigh true
    rw [h3, hlow, if_pos rfl, if_pos rfl]

/-- A mask of one bit. -/
theorem and_bitMask (v : UInt8) {n : ℕ} (hn : n < 8) :
    v &&& bitMask n = if hasBit v n then bitMask n else 0 := by
  rw [hasBit]
  by_cases h0 : v &&& bitMask n = 0
  · simp [h0]
  · rw [if_pos (by simpa using h0)]
    refine eq_of_hasBit fun i => ?_
    rw [hasBit_and, hasBit_bitMask hn]
    rcases eq_or_ne (i : ℕ) n with rfl | hne
    · simp [hasBit, h0]
    · simp [hne]

theorem datarateBits_held (rate : HalNrfDatarate) (v : UInt8) :
    (((datarateBits rate v &&& bitMask 5) <<< 1) ||| (datarateBits rate v &&& bitMask 3)).toNat =
      NrfField.datarate.told rate.code := by
  have h3 : ∀ w on, hasBit (putBit 3 on w) 3 = on := fun w on => hasBit_putBit_self w (by omega) on
  have h5 : ∀ on on', hasBit (putBit 3 on (putBit 5 on' v)) 5 = on' := fun on on' =>
    (hasBit_putBit_of_ne (putBit 5 on' v) (by omega) on (i := (5 : Fin 8)) (by decide)).trans
      (hasBit_putBit_self v (by omega) on')
  rw [and_bitMask _ (by omega), and_bitMask _ (by omega)]
  cases rate with
  | mbps1 =>
    have hw : datarateBits .mbps1 v = putBit 3 false (putBit 5 false v) := rfl
    rw [hw, h3, h5]
    rfl
  | mbps2 =>
    have hw : datarateBits .mbps2 v = putBit 3 true (putBit 5 false v) := rfl
    rw [hw, h3, h5]
    rfl
  | kbps250 =>
    have hw : datarateBits .kbps250 v = putBit 3 false (putBit 5 true v) := rfl
    rw [hw, h3, h5]
    rfl

theorem shiftRight_one_and (v : UInt8) : (v >>> 1) &&& (3 : UInt8) = (v &&& 6) >>> (1 : UInt8) := by
  rw [UInt8.shiftRight_and]
  rfl

theorem powerBits_held (power : HalNrfOutputPower) (v : UInt8) :
    ((powerBits power v >>> 1) &&& (3 : UInt8)).toNat = power.code.toNat := by
  have hmask : ∀ i : Fin 8,
      hasBit 6 i = true → hasBit (~~~(bitMask 1 ||| bitMask 2)) i = false := by
    decide
  have hsame : powerBits power v &&& 6 = powerBits power 0 &&& 6 := by
    refine and_congr_of_hasBit fun i hi => ?_
    rw [powerBits, powerBits, hasBit_or, hasBit_or, hasBit_and, hasBit_and, hmask i hi,
      Bool.and_false, Bool.and_false]
  rw [shiftRight_one_and, hsame]
  cases power <;> rfl

theorem shiftRight_four_and (v : UInt8) :
    (v >>> 4) &&& (0x0f : UInt8) = (v &&& 0xf0) >>> (4 : UInt8) := by
  rw [UInt8.shiftRight_and]
  rfl

theorem rfChannel_held (channel : UInt8) (h : channel < 0x80) :
    ((channel &&& 0x7f) &&& 0x7f).toNat = channel.toNat := by
  have hlt : channel.toNat < 2 ^ 7 := h
  have hand : ∀ n < 2 ^ 7, n &&& 127 = n := fun n hn => by
    rw [show 127 = 2 ^ 7 - 1 from rfl, Nat.and_two_pow_sub_one_eq_mod, Nat.mod_eq_of_lt hn]
  rw [UInt8.toNat_and, UInt8.toNat_and]
  change (channel.toNat &&& 127) &&& 127 = _
  rw [hand _ hlt, hand _ hlt]

/-- The two halves of a byte. -/
theorem nibble_low (h l : UInt8) : (h <<< 4 ||| (l &&& 0x0f)) &&& 0x0f = l &&& 0x0f := by
  refine UInt8.toBitVec_inj.mp (BitVec.eq_of_getLsbD_eq fun i hi => ?_)
  interval_cases i <;> simp

theorem nibble_high (h l : UInt8) : ((h <<< 4 ||| (l &&& 0x0f)) >>> 4) &&& 0x0f = h &&& 0x0f := by
  refine UInt8.toBitVec_inj.mp (BitVec.eq_of_getLsbD_eq fun i hi => ?_)
  interval_cases i <;> simp

/-- What `hal_nrf_set_auto_retr` writes, and what is read from it. -/
theorem autoRetr_held (k : Fin 16) (retr : UInt8) (hretr : retr < 0x10) :
    let delay := UInt16.ofNat (250 * (k + 1))
    let v : UInt8 := (((delay >>> 8) &&& 0x0f).toUInt8 <<< 4) ||| (retr &&& 0x0f)
    (v &&& 0x0f).toNat = retr.toNat ∧
      ((((v >>> 4) &&& 0x0f).toUInt16 + 1) * 250).toNat = delay.toNat := by
  intro delay v
  have hlt : retr.toNat < 2 ^ 4 := hretr
  constructor
  · rw [nibble_low, UInt8.toNat_and]
    change retr.toNat &&& (2 ^ 4 - 1) = _
    rw [Nat.and_two_pow_sub_one_eq_mod, Nat.mod_eq_of_lt hlt]
  · rw [nibble_high]
    revert k
    decide

/-- The bits of a pipe after a call for pipes. -/
theorem pipeStatus_apply (f : UInt8 × UInt8 → UInt8 × UInt8)
    (hc : c.apply d = d.after (halNrfUpdatePipes bus (some f))) (p : Fin 6) :
    (NrfField.pipeStatus p).held (c.apply d) =
      2 * (hasBit (f (d 0x02 0, d 0x01 0)).2 p).toNat +
        (hasBit (f (d 0x02 0, d 0x01 0)).1 p).toNat := by
  rw [NrfField.held, hc, apply_updatePipes, put_self, put_of_ne (by decide), put_self]

theorem openPipe_held {pipeNum : HalNrfAddress} {p : Fin 6} (h : pipeNum.Covers p)
    (autoAck : Bool) : (NrfField.pipeStatus p).held ((NrfSetter.openPipe pipeNum autoAck).apply d) =
      2 * autoAck.toNat + 1 := by
  rcases h with rfl | rfl
  · rw [pipeStatus_apply (fun r => (setBit r.1 p, putBit p autoAck r.2)) rfl,
      hasBit_putBit_self _ (by omega)]
    exact congrArg (fun b : Bool => 2 * autoAck.toNat + b.toNat)
      (hasBit_putBit_self _ (by omega) true)
  · have hp : ∀ (autoAck : Bool) (p : Fin 6), 2 * (hasBit (if autoAck then 0x3f else 0) p).toNat +
        (hasBit 0x3f p).toNat = 2 * autoAck.toNat + 1 := by decide
    exact (pipeStatus_apply (fun _ => (0x3f, if autoAck then 0x3f else 0)) rfl p).trans
      (hp autoAck p)

theorem closePipe_held {pipeNum : HalNrfAddress} {p : Fin 6} (h : pipeNum.Covers p) :
    (NrfField.pipeStatus p).held ((NrfSetter.closePipe pipeNum).apply d) = 0 := by
  rcases h with rfl | rfl
  · have hbit : ∀ v : UInt8, hasBit (clrBit v p) p = false := fun v =>
      hasBit_putBit_self v (by omega) false
    rw [pipeStatus_apply (fun r => (clrBit r.1 p, clrBit r.2 p)) rfl, hbit, hbit]
    rfl
  · have hp : ∀ p : Fin 6, hasBit 0 p = false := by decide
    rw [pipeStatus_apply (fun _ => (0, 0)) rfl, hp]
    rfl

/-- The bytes of an address that a call writes. -/
theorem write_addressByte {reg : ℕ} (hsize : size reg = 5) (addr : ℕ → UInt8) {j v : ℕ}
    (h : addressByte d addr j = some v) :
    (d.write reg ((List.range (d 0x03 0 + 2).toNat).map addr) reg j).toNat = v := by
  rw [addressByte] at h
  split at h
  · rename_i hj
    have hlen : j < ((List.range (d 0x03 0 + 2).toNat).map addr).length := by
      rw [List.length_map, List.length_range]
      exact hj.1
    rw [write, if_pos ⟨rfl, hlen, hsize.symm ▸ hj.2⟩, List.getD, List.getElem?_eq_getElem hlen,
      Option.getD_some, List.getElem_map, List.getElem_range, Option.some.inj h]
  · exact nomatch h

theorem pipeAddress_held {p : Fin 6} {addr : ℕ → UInt8} {j v : ℕ}
    (h : (NrfSetter.address (.pipe p) addr).value d (.pipeAddress p j) = some v) :
    ((NrfSetter.address (.pipe p) addr).apply d (0x0a + p) j).toNat = v := by
  rw [NrfSetter.value, if_pos rfl] at h
  rw [apply_address_pipe]
  by_cases hp : p < 2
  · have hsize : size (0x0a + p) = 5 := by
      obtain rfl | rfl : p = 0 ∨ p = 1 := by omega
      · rfl
      · rfl
    rw [if_pos hp] at h ⊢
    exact write_addressByte hsize addr h
  · rw [if_neg hp] at h ⊢
    split at h
    · rename_i hj
      rw [hj, put_self]
      exact Option.some.inj h
    · exact nomatch h

/-- A call sets the fields that it should. -/
def NrfSetter.Sets (c : NrfSetter) (d : RegFile) : Prop :=
  ∀ f v, c.value d f = some v → f.held (c.apply d) = f.told v

theorem sets_operationMode (opMode : HalNrfOperationMode) :
    (NrfSetter.operationMode opMode).Sets d
  | .operationMode, _, rfl => operationMode_held opMode (d 0x00 0)

theorem sets_powerMode (pwrMode : HalNrfPwrMode) : (NrfSetter.powerMode pwrMode).Sets d
  | .powerMode, _, rfl => powerMode_held pwrMode (d 0x00 0)

theorem sets_crcMode (mode : HalNrfCrcMode) : (NrfSetter.crcMode mode).Sets d
  | .crcMode, _, rfl => congrArg HalNrfCrcMode.code (crcBits_held mode (d 0x00 0))

theorem sets_irqMode (intSource : HalNrfIrqSource) (irqState : Bool) :
    (NrfSetter.irqMode intSource irqState).Sets d
  | .irqMode src, v, h => by
    obtain ⟨rfl, hv⟩ := Option.ite_none_right_eq_some.mp h
    obtain rfl := Option.some.inj hv
    exact irqMode_held intSource irqState (d 0x00 0)

theorem sets_dynamicPayload (enable : Bool) : (NrfSetter.dynamicPayload enable).Sets d
  | .dynamicPayload, _, rfl => flag_held (d 0x1d 0) (by decide) enable

theorem sets_ackPayload (enable : Bool) : (NrfSetter.ackPayload enable).Sets d
  | .ackPayload, _, rfl => flag_held (d 0x1d 0) (by decide) enable

theorem sets_dynamicAck (enable : Bool) : (NrfSetter.dynamicAck enable).Sets d
  | .dynamicAck, _, rfl => flag_held (d 0x1d 0) (by decide) enable

theorem sets_rfChannel {channel : UInt8} (hc : channel < 0x80) :
    (NrfSetter.rfChannel channel).Sets d
  | .rfChannel, _, rfl => rfChannel_held channel hc

theorem sets_outputPower (power : HalNrfOutputPower) : (NrfSetter.outputPower power).Sets d
  | .outputPower, _, rfl => by
    rw [apply_outputPower]
    exact powerBits_held power (d 0x06 0)

theorem sets_datarate (rate : HalNrfDatarate) : (NrfSetter.datarate rate).Sets d
  | .datarate, _, rfl => datarateBits_held rate (d 0x06 0)

theorem sets_pllMode (pllLock : Bool) : (NrfSetter.pllMode pllLock).Sets d
  | .pllMode, _, rfl => flag_held (d 0x06 0) (by decide) pllLock

theorem sets_continuousWave (enable : Bool) : (NrfSetter.continuousWave enable).Sets d
  | .continuousWave, _, rfl => flag_held (d 0x06 0) (by decide) enable

/-- Delays are multiples of 250. -/
theorem sets_autoRetr {retr : UInt8} {delay : UInt16}
    (hc : (NrfSetter.autoRetr retr delay).InRange) : (NrfSetter.autoRetr retr delay).Sets d := by
  obtain ⟨hretr, k, hk, hk', rfl⟩ := hc
  obtain ⟨q, rfl⟩ : ∃ q : Fin 16, k = q + 1 := ⟨⟨k - 1, by omega⟩, by simp only; omega⟩
  intro f v h
  match f, v, h with
  | .autoRetrCtr, _, rfl => exact (autoRetr_held q retr hretr).1
  | .autoRetrDelay, _, rfl => exact (autoRetr_held q retr hretr).2

theorem sets_rxPayloadWidth (pipeNum : HalNrfAddress) (ploadWidth : UInt8) :
    (NrfSetter.rxPayloadWidth pipeNum ploadWidth).Sets d
  | .rxPayloadWidth p, v, h => by
    obtain ⟨rfl, hv⟩ := Option.ite_none_right_eq_some.mp h
    obtain rfl := Option.some.inj hv
    rw [NrfField.held, apply_rxPayloadWidth, put_self]
    rfl

theorem sets_openPipe (pipeNum : HalNrfAddress) (autoAck : Bool) :
    (NrfSetter.openPipe pipeNum autoAck).Sets d
  | .pipeStatus p, v, h => by
    obtain ⟨hp, hv⟩ := Option.ite_none_right_eq_some.mp h
    obtain rfl := Option.some.inj hv
    exact openPipe_held hp autoAck

theorem sets_closePipe (pipeNum : HalNrfAddress) : (NrfSetter.closePipe pipeNum).Sets d
  | .pipeStatus p, v, h => by
    obtain ⟨hp, hv⟩ := Option.ite_none_right_eq_some.mp h
    obtain rfl := Option.some.inj hv
    exact closePipe_held hp

theorem sets_addressWidth (width : HalNrfAddressWidth) : (NrfSetter.addressWidth width).Sets d
  | .addressWidth, _, rfl => by cases width <;> rfl

theorem sets_address (pipeNum : HalNrfAddress) (addr : ℕ → UInt8) :
    (NrfSetter.address pipeNum addr).Sets d
  | .pipeAddress p j, v, h => by
    obtain ⟨rfl, -⟩ := Option.ite_none_right_eq_some.mp h
    exact pipeAddress_held h
  | .txAddress j, v, h => by
    obtain ⟨rfl, hv⟩ := Option.ite_none_right_eq_some.mp h
    rw [NrfField.held, apply_address_tx]
    exact write_addressByte rfl addr hv

/-- A call in range sets the fields that it should. There is a lemma for each setter, or for the
setters of one register. -/
theorem held_apply (hc : c.InRange) {f : NrfField} {v : ℕ} (h : c.value d f = some v) :
    f.held (c.apply d) = f.told v := by
  have hsets : c.Sets d := by
    cases c with
    | operationMode opMode => exact sets_operationMode opMode
    | powerMode pwrMode => exact sets_powerMode pwrMode
    | crcMode mode => exact sets_crcMode mode
    | irqMode intSource irqState => exact sets_irqMode intSource irqState
    | dynamicPayload enable => exact sets_dynamicPayload enable
    | ackPayload enable => exact sets_ackPayload enable
    | dynamicAck enable => exact sets_dynamicAck enable
    | setupDynamicPayload setup => exact fun _ _ h => nomatch h
    | rfChannel channel => exact sets_rfChannel hc
    | outputPower power => exact sets_outputPower power
    | datarate rate => exact sets_datarate rate
    | pllMode pllLock => exact sets_pllMode pllLock
    | continuousWave enable => exact sets_continuousWave enable
    | autoRetr retr delay => exact sets_autoRetr hc
    | rxPayloadWidth pipeNum ploadWidth => exact sets_rxPayloadWidth pipeNum ploadWidth
    | openPipe pipeNum autoAck => exact sets_openPipe pipeNum autoAck
    | closePipe pipeNum => exact sets_closePipe pipeNum
    | addressWidth width => exact sets_addressWidth width
    | address pipeNum addr => exact sets_address pipeNum addr
  exact hsets f v h

end Setters

section Reads

variable {d d' : RegFile}

/-- What the registers hold of a field rests on its bits alone: where these are the same, so is
what is read of the field. -/
theorem held_congr {f : NrfField}
    (h : ∀ r j i, fieldAt r j i = some f → hasBit (d r j) i = hasBit (d' r j) i) :
    f.held d = f.held d' := by
  cases f with
  | operationMode =>
    exact congrArg (fun b : Bool => (if b then HalNrfOperationMode.prx else .ptx).code)
      (h 0 0 0 rfl)
  | powerMode =>
    exact congrArg (fun b : Bool => (if b then HalNrfPwrMode.pwrUp else .pwrDown).code)
      (h 0 0 1 rfl)
  | crcMode =>
    exact congrArg₂ (fun b b' : Bool =>
      (if b then if b' then HalNrfCrcMode.bit16 else .bit8 else .off).code)
      (h 0 0 3 rfl) (h 0 0 2 rfl)
  | irqMode src =>
    cases src with
    | maxRt => exact congrArg (fun b : Bool => (!b).toNat) (h 0 0 4 rfl)
    | txDs => exact congrArg (fun b : Bool => (!b).toNat) (h 0 0 5 rfl)
    | rxDr => exact congrArg (fun b : Bool => (!b).toNat) (h 0 0 6 rfl)
  | dynamicPayload => exact congrArg Bool.toNat (h 0x1d 0 2 rfl)
  | ackPayload => exact congrArg Bool.toNat (h 0x1d 0 1 rfl)
  | dynamicAck => exact congrArg Bool.toNat (h 0x1d 0 0 rfl)
  | rfChannel =>
    have hmap : ∀ i : Fin 8, hasBit 0x7f i = true → fieldAt 5 0 i = some .rfChannel := by decide
    exact congrArg UInt8.toNat (and_congr_of_hasBit fun i hi => h 5 0 i (hmap i hi))
  | outputPower =>
    have hmap : ∀ i : Fin 8, hasBit 6 i = true → fieldAt 6 0 i = some .outputPower := by decide
    have hand : d 6 0 &&& 6 = d' 6 0 &&& 6 :=
      and_congr_of_hasBit fun i hi => h 6 0 i (hmap i hi)
    show ((d 6 0 >>> 1) &&& 3).toNat = ((d' 6 0 >>> 1) &&& 3).toNat
    rw [shiftRight_one_and, shiftRight_one_and, hand]
  | datarate =>
    have hmap : ∀ i : Fin 8, hasBit (bitMask 5) i = true ∨ hasBit (bitMask 3) i = true →
        fieldAt 6 0 i = some .datarate := by decide
    have h5 : d 6 0 &&& bitMask 5 = d' 6 0 &&& bitMask 5 :=
      and_congr_of_hasBit fun i hi => h 6 0 i (hmap i (Or.inl hi))
    have h3 : d 6 0 &&& bitMask 3 = d' 6 0 &&& bitMask 3 :=
      and_congr_of_hasBit fun i hi => h 6 0 i (hmap i (Or.inr hi))
    show (((d 6 0 &&& bitMask 5) <<< 1) ||| (d 6 0 &&& bitMask 3)).toNat = _
    rw [h5, h3]
    rfl
  | pllMode => exact congrArg Bool.toNat (h 6 0 4 rfl)
  | continuousWave => exact congrArg Bool.toNat (h 6 0 7 rfl)
  | autoRetrCtr =>
    have hmap : ∀ i : Fin 8, hasBit 0x0f i = true → fieldAt 4 0 i = some .autoRetrCtr := by decide
    exact congrArg UInt8.toNat (and_congr_of_hasBit fun i hi => h 4 0 i (hmap i hi))
  | autoRetrDelay =>
    have hmap : ∀ i : Fin 8, hasBit 0xf0 i = true → fieldAt 4 0 i = some .autoRetrDelay := by
      decide
    have hand : d 4 0 &&& 0xf0 = d' 4 0 &&& 0xf0 :=
      and_congr_of_hasBit fun i hi => h 4 0 i (hmap i hi)
    show ((((d 4 0 >>> 4) &&& 0x0f).toUInt16 + 1) * 250).toNat = _
    rw [shiftRight_four_and, hand, ← shiftRight_four_and]
    rfl
  | rxPayloadWidth p =>
    exact congrArg UInt8.toNat (eq_of_hasBit fun i => h _ 0 i (fieldAt_rxPayloadWidth p i))
  | pipeStatus p =>
    have hlt : (p : ℕ) < 8 := by omega
    have hp : ∀ p : Fin 6, ∀ i : Fin 8, (i : ℕ) = p → fieldAt 1 0 i = some (.pipeStatus p) ∧
        fieldAt 2 0 i = some (.pipeStatus p) := by decide
    have h1 : hasBit (d 1 0) p = hasBit (d' 1 0) p := h 1 0 ⟨p, hlt⟩ (hp p ⟨p, hlt⟩ rfl).1
    have h2 : hasBit (d 2 0) p = hasBit (d' 2 0) p := h 2 0 ⟨p, hlt⟩ (hp p ⟨p, hlt⟩ rfl).2
    rw [NrfField.held, NrfField.held, h1, h2]
  | addressWidth =>
    have hmap : ∀ i : Fin 8, fieldAt 3 0 i = some .addressWidth := by decide
    exact congrArg (fun v : UInt8 => (v + 2).toNat) (eq_of_hasBit fun i => h 3 0 i (hmap i))
  | pipeAddress p j =>
    exact congrArg UInt8.toNat (eq_of_hasBit fun i => h _ j i (fieldAt_pipeAddress p j i))
  | txAddress j => exact congrArg UInt8.toNat (eq_of_hasBit fun i => h 0x10 j i rfl)

end Reads

/-! ### Sequences of calls -/

/-- Make the calls one after the other. -/
def nrfRun : RegFile → List NrfSetter → RegFile := Fields.run NrfSetter.apply

/-- The value a field was last set to, if any. -/
def NrfField.lastSet (f : NrfField) (d : RegFile) (cs : List NrfSetter) : Option ℕ :=
  Fields.lastSet NrfSetter.apply NrfSetter.value d cs f

/-- After the calls the getter of a field tells what it was last set to, or, if it was never set,
what it told before; and it does tell it, the bytes of an address up to the current width. -/
def NrfField.Kept (f : NrfField) (d : RegFile) (cs : List NrfSetter) : Prop :=
  f.Shown (nrfRun d cs) → ∃ v, f.get (nrfRun d cs) = some v ∧
    ∀ w, (f.lastSet d cs).or (f.get d) = some w → v = w

/-- **Sequences of calls.** What the registers hold of a field is what its last setter made it. It
is the rule of `Fields` for runs, with what is said above of one call. -/
theorem held_run (d : RegFile) {cs : List NrfSetter} (h : ∀ c ∈ cs, c.InRange) (f : NrfField) :
    f.held (nrfRun d cs) = ((f.lastSet d cs).map f.told).getD (f.held d) := by
  refine Fields.get_run f.held f.told (fun c d v hc hv => held_apply hc hv) (fun c d hc hv => ?_)
    d h
  exact Fields.get_apply (fun (d : RegFile) (l : ℕ × ℕ × Fin 8) => hasBit (d l.1 l.2.1) l.2.2)
    (fun l => fieldAt l.1 l.2.1 l.2.2)
    (fun _ _ hbits => held_congr fun r j i hf => hbits (r, j, i) hf)
    (fun l g hg hnone => frames_of_inRange hc _ _ _ g hg hnone) hv

theorem told_eq_iff (f : NrfField) (v : ℕ) :
    f.told v = v ↔ (f = .datarate → v ≠ HalNrfDatarate.mbps2.code ∧
      v ≠ HalNrfDatarate.kbps250.code) := by
  cases f with
  | datarate =>
    match v with
    | 0 => exact ⟨fun _ _ => ⟨Nat.zero_ne_one, (Nat.zero_ne_add_one 1)⟩, fun _ => rfl⟩
    | 1 => exact ⟨fun h => absurd h (by decide), fun h => absurd rfl (h rfl).1⟩
    | 2 => exact ⟨fun h => absurd h (by decide), fun h => absurd rfl (h rfl).2⟩
    | v + 3 =>
      exact ⟨fun _ _ => ⟨nofun, nofun⟩, fun _ => rfl⟩
  | _ => exact ⟨fun _ h => NrfField.noConfusion h, fun _ => rfl⟩

/-- After any calls with arguments in range, from any registers, every getter tells what its field
was last set to, but for the data rate, which is told rightly only if it is 1 Mbps or was never
set. -/
theorem nrfRun_kept_iff (d : RegFile) (cs : List NrfSetter) (h : ∀ c ∈ cs, c.InRange)
    (f : NrfField) :
    f.Kept d cs ↔ (f = .datarate → f.lastSet d cs ≠ some HalNrfDatarate.mbps2.code ∧
      f.lastSet d cs ≠ some HalNrfDatarate.kbps250.code) := by
  have hheld := held_run d h f
  rcases hlast : f.lastSet d cs with _ | u
  · -- never set: what the registers hold is what they held
    rw [hlast] at hheld
    refine iff_of_true (fun hshown => ⟨_, get_eq_some _ hshown, fun w hw => ?_⟩)
      fun _ => ⟨nofun, nofun⟩
    rw [hlast, Option.none_or] at hw
    by_cases hd : f.Shown d
    · exact hheld.trans (Option.some.inj ((get_eq_some d hd).symm.trans hw))
    · exact nomatch (get_eq_none d hd).symm.trans hw
  · rw [hlast] at hheld
    have htold : (f = .datarate → some u ≠ some HalNrfDatarate.mbps2.code ∧
        some u ≠ some HalNrfDatarate.kbps250.code) ↔ f.told u = u := by
      rw [told_eq_iff]
      simp only [ne_eq, Option.some.injEq]
    rw [htold]
    constructor
    · intro hkept
      by_cases hf : f = .datarate
      · obtain rfl := hf
        have hshown : NrfField.datarate.Shown (nrfRun d cs) := trivial
        obtain ⟨v, hv, hw⟩ := hkept hshown
        rw [get_eq_some _ hshown] at hv
        rw [hlast] at hw
        exact hheld.symm.trans ((Option.some.inj hv).trans (hw u rfl))
      · exact (told_eq_iff f u).mpr fun h => absurd h hf
    · intro hu hshown
      refine ⟨_, get_eq_some _ hshown, fun w hw => ?_⟩
      rw [hlast] at hw
      exact hheld.trans (hu.trans (Option.some.inj hw))

/-- Delays of 500 and 4000 µs, and a pipe that is opened. -/
theorem nrfRun_kept_delay :
    NrfField.autoRetrDelay.Kept (fun _ _ => 0)
      [.autoRetr 3 500, .autoRetr 15 4000, .openPipe (.pipe 1) true] := by
  refine (nrfRun_kept_iff _ _ ?_ _).mpr nofun
  intro c hc
  simp only [List.mem_cons, List.not_mem_nil, or_false] at hc
  rcases hc with rfl | rfl | rfl
  · exact ⟨by decide, 2, by decide, by decide, rfl⟩
  · exact ⟨by decide, 16, by decide, by decide, rfl⟩
  · trivial

/-- A data rate of 2 Mbps, told as 8. -/
theorem nrfRun_datarate_fails :
    (∀ c ∈ [NrfSetter.datarate .mbps2], c.InRange) ∧
      ¬ NrfField.datarate.Kept (fun _ _ => 0) [.datarate .mbps2] := by
  constructor
  · intro c hc
    obtain rfl := List.mem_singleton.mp hc
    trivial
  · intro h
    obtain ⟨v, hv, hw⟩ := h trivial
    have h8 : NrfField.datarate.get (nrfRun (fun _ _ => 0) [.datarate .mbps2]) = some 8 := rfl
    have h1 : v = 1 := hw 1 rfl
    rw [h8, h1] at hv
    exact absurd hv (by decide)

end Librasp
