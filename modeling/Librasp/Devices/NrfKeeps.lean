import Librasp.Devices.NrfRegs
import Librasp.Devices.NrfBuffers

/-!
# What the calls keep

What a program keeps is kept by each of its transfers. The calls that set, configure or tell
something access registers only, and none of them writes `STATUS`: what every such access keeps,
they keep (`config_keeps`), whatever goes on in the device between two transfers.

* `Keeps P m` says that a program keeps a property of the state, and `Yields P m Q` what it makes
  of a state with a property. Both have the rules for a sequence and for `CHK_SPI_ERR`.
* `KeptByRegs` is a property that every access to a register keeps, but for a write of `STATUS`.
  It is what has to be shown of a property once, to have it kept by all of these calls.

So the receiver and the transmitter need nothing of their set-up but that it does not write
`STATUS`, and the interrupts are taken by no other calls.
-/

namespace Librasp

section Keeps

variable {δ α β : Type} {b : NrfBus δ} {P : NrfSt δ → Prop}

/-- A program keeps a property of the state. -/
def Keeps (P : NrfSt δ → Prop) (m : NrfM δ α) : Prop := ∀ s, P s → P (m s).2

theorem keeps_pure (a : α) : Keeps P (pure a : NrfM δ α) := fun _ h => h

theorem Keeps.bind {m : NrfM δ α} {next : α → NrfM δ β} (hm : Keeps P m)
    (hnext : ∀ a, Keeps P (next a)) : Keeps P (m >>= next) := fun s h =>
  hnext (m s).1 (m s).2 (hm s h)

/-- What a program makes of a state with a property. -/
def Yields (P : NrfSt δ → Prop) (m : NrfM δ α) (Q : α → NrfSt δ → Prop) : Prop :=
  ∀ s, P s → Q (m s).1 (m s).2

theorem Yields.bind {m : NrfM δ α} {next : α → NrfM δ β} {Q : α → NrfSt δ → Prop}
    {R : β → NrfSt δ → Prop} (hm : Yields P m Q) (hnext : ∀ a, Yields (Q a) (next a) R) :
    Yields P (m >>= next) R := fun s h =>
  hnext (m s).1 (m s).2 (hm s h)

theorem Keeps.yields {m : NrfM δ α} (h : Keeps P m) : Yields P m fun _ => P := h

theorem Keeps.map {m : NrfM δ α} (hm : Keeps P m) (f : α → β) :
    Keeps P (do return f (← m) : NrfM δ β) :=
  hm.bind fun _ => keeps_pure _

/-- On after a part that went well. -/
theorem Keeps.chk {m m' : NrfM δ α} (hm : Keeps P m) (hm' : Keeps P m') :
    Keeps P fun s => if s.ecomm then m s else m' s := fun s h => by
  dsimp only
  split_ifs
  · exact hm s h
  · exact hm' s h

theorem Keeps.chkSpiErr {next : NrfM δ Unit} (h : Keeps P next) : Keeps P (chkSpiErr next) :=
  Keeps.chk (keeps_pure ()) h

/-- A transfer, and a property of the device. -/
theorem keeps_transmit {P : δ → Prop} {tx : List UInt8} (h : ∀ d, P d → P (b.answer d tx).2) :
    Keeps (fun s => P s.dev) (nrfTransmit b tx) := fun s hs => by
  dsimp only [nrfTransmit]
  split_ifs
  · exact hs
  · exact h s.dev hs
  · exact hs

theorem keeps_readBytes {cmd : UInt8} (hcmd : ∀ data, Keeps P (nrfTransmit b (cmd :: data)))
    (reg length : UInt8) : Keeps P (halNrfReadBytes b cmd reg length) := by
  rw [halNrfReadBytes]
  split_ifs
  · exact (hcmd _).map _
  · exact keeps_pure _

theorem keeps_readSized {cmd : UInt8} (hcmd : ∀ data, Keeps P (nrfTransmit b (cmd :: data)))
    (reg len : UInt8) {width : NrfM δ UInt8} (hwidth : Keeps P width) :
    Keeps P (halNrfReadSized b cmd reg len width) := by
  rw [halNrfReadSized]
  split_ifs
  · exact hwidth.bind fun length => Keeps.chk (keeps_pure _) (keeps_readBytes hcmd reg length)
  · exact keeps_readBytes hcmd reg len

/-- A register is accessed, and not to write `STATUS`. -/
def IsRegCmd (cmd : UInt8) : Prop := cmd < 2 * Nrf.wRegister ∧ cmd ≠ Nrf.wRegister + 0x07

instance (cmd : UInt8) : Decidable (IsRegCmd cmd) := inferInstanceAs (Decidable (_ ∧ _))

/-- Every access to a register keeps a property. -/
def KeptByRegs (b : NrfBus δ) (P : NrfSt δ → Prop) : Prop :=
  ∀ cmd data, IsRegCmd cmd → Keeps P (nrfTransmit b (cmd :: data))

/-! ### Parts -/

variable (h : KeptByRegs b P)

include h

theorem keeps_readReg {reg : UInt8} (hreg : IsRegCmd reg) : Keeps P (halNrfReadReg b reg) :=
  (h reg [0] hreg).map _

theorem keeps_setReg {reg : UInt8} (hreg : IsRegCmd (Nrf.wRegister + reg)) (value : UInt8) :
    Keeps P (halNrfSetReg b reg value) :=
  ((h _ [value] hreg).map _).bind fun _ => keeps_pure _

theorem keeps_updateReg {reg : UInt8} (hread : IsRegCmd reg)
    (hwrite : IsRegCmd (Nrf.wRegister + reg)) (f : UInt8 → UInt8) :
    Keeps P (halNrfUpdateReg b reg f) :=
  (keeps_readReg h hread).bind fun _ => (keeps_setReg h hwrite _).chkSpiErr

theorem keeps_updatePipes (change : Option (UInt8 × UInt8 → UInt8 × UInt8)) :
    Keeps P (halNrfUpdatePipes b change) := by
  refine (keeps_readReg h (by decide)).bind fun _ => Keeps.chkSpiErr ?_
  refine (keeps_readReg h (by decide)).bind fun _ => Keeps.chkSpiErr ?_
  cases change with
  | none => exact keeps_pure _
  | some f =>
    exact (keeps_setReg h (by decide) _).bind fun _ => (keeps_setReg h (by decide) _).chkSpiErr

theorem keeps_setRxPayloadWidth (pipeNum : HalNrfAddress) (ploadWidth : UInt8) :
    Keeps P (halNrfSetRxPayloadWidth b pipeNum ploadWidth) := by
  have hpipe : ∀ p : Fin 6,
      IsRegCmd (Nrf.wRegister + (Nrf.rxPwP0 + HalNrfAddress.code (.pipe p))) := by decide
  refine keeps_setReg h ?_ _
  cases pipeNum with
  | pipe p => exact hpipe p
  | tx => decide
  | all => decide

theorem keeps_getAddressWidth : Keeps P (halNrfGetAddressWidth b) :=
  (keeps_readReg h (by decide)).map _

theorem keeps_setAddress (pipeNum : HalNrfAddress) (addr : ℕ → UInt8) :
    Keeps P (halNrfSetAddress b pipeNum addr) := by
  have hpipe : ∀ p : Fin 6,
      IsRegCmd (Nrf.wRegister + Nrf.rxAddrP0 + HalNrfAddress.code (.pipe p)) := by decide
  cases pipeNum with
  | tx =>
    exact (keeps_getAddressWidth h).bind fun _ => (h _ _ (by decide)).map _
  | pipe p =>
    rw [halNrfSetAddress]
    split_ifs
    · exact (keeps_getAddressWidth h).bind fun _ => (h _ _ (hpipe p)).map _
    · refine keeps_setReg h ?_ _
      rw [← UInt8.add_assoc]
      exact hpipe p
  | all => exact keeps_pure _

/-! ### Calls -/

/-- A setter. -/
theorem setter_keeps (c : NrfSetter) : Keeps P (c.exec b) := by
  cases c with
  | setupDynamicPayload | rfChannel | autoRetr | addressWidth =>
    exact keeps_setReg h (by decide) _
  | outputPower power =>
    exact (keeps_readReg h (by decide)).bind fun _ => keeps_setReg h (by decide) _
  | rxPayloadWidth => exact keeps_setRxPayloadWidth h _ _
  | openPipe | closePipe => exact keeps_updatePipes h _
  | address => exact keeps_setAddress h _ _
  | _ => exact keeps_updateReg h (by decide) (by decide) _

/-- A setter, or a configuration function. -/
theorem config_keeps (c : NrfCall) : Keeps P (c.exec b) := by
  cases c with
  | setter c => exact setter_keeps h c
  | configRxPipe pipeNum addr autoAck ploadWidth =>
    refine (keeps_updatePipes h _).bind fun _ => Keeps.chkSpiErr ?_
    cases addr with
    | none => exact keeps_setRxPayloadWidth h pipeNum ploadWidth
    | some addr =>
      exact (keeps_setAddress h pipeNum addr).bind fun _ =>
        (keeps_setRxPayloadWidth h pipeNum ploadWidth).chkSpiErr
  | configTx addr power retr delay =>
    refine (setter_keeps h (.outputPower power)).bind fun _ => Keeps.chkSpiErr ?_
    refine (setter_keeps h (.autoRetr retr delay)).bind fun _ => Keeps.chkSpiErr ?_
    cases addr with
    | none => exact keeps_updatePipes h _
    | some addr =>
      refine (keeps_setAddress h _ addr).bind fun _ => Keeps.chkSpiErr ?_
      exact (keeps_setAddress h _ addr).bind fun _ => (keeps_updatePipes h _).chkSpiErr

/-- The address of a pipe is told. -/
theorem keeps_getAddress (pipeNum : HalNrfAddress) : Keeps P (halNrfGetAddress b pipeNum) := by
  have hmultibyte : ∀ reg : UInt8, reg = 0 ∨ reg = 1 ∨ reg = 6 →
      Keeps P (do let r ← halNrfReadMultibyteReg b reg 0; return (r.1.toUInt8, r.2)) := by
    intro reg hreg
    have hcmd : IsRegCmd (Nrf.rxAddrP0 + reg) := by rcases hreg with rfl | rfl | rfl <;> decide
    rw [halNrfReadMultibyteReg, if_pos hreg]
    exact (keeps_readSized (fun data => h _ data hcmd) _ _ (keeps_getAddressWidth h)).map _
  have hpipe : ∀ p : Fin 6, IsRegCmd (Nrf.rxAddrP0 + HalNrfAddress.code (.pipe p)) := by decide
  have hfirst : ∀ p : Fin 6, p < 2 →
      HalNrfAddress.code (.pipe p) = 0 ∨ HalNrfAddress.code (.pipe p) = 1 ∨
        HalNrfAddress.code (.pipe p) = 6 := by decide
  cases pipeNum with
  | tx => exact hmultibyte 6 (by decide)
  | pipe p =>
    rw [halNrfGetAddress]
    split_ifs with hp
    · exact hmultibyte _ (hfirst p hp)
    · exact (keeps_readReg h (hpipe p)).map _
  | all => exact (keeps_readReg h (by decide)).map _

theorem keeps_getPipeStatus (pipeNum : HalNrfAddress) :
    Keeps P (halNrfGetPipeStatus b pipeNum) := by
  refine (keeps_readReg h (by decide)).bind fun v => Keeps.chk (keeps_pure _) ?_
  intro s hs
  cases pipeNum <;> exact keeps_readReg h (by decide) s hs

end Keeps

end Librasp
