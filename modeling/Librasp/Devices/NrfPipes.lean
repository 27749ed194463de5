import Librasp.Devices.NrfErrors
import Librasp.Devices.NrfRegs

/-!
# What the functions of the pipes change

A pipe has a bit in each of `EN_RXADDR` and `EN_AA`, an address and a payload width. The functions
that set them compute the number of a register from the pipe selector, which may also be
`HAL_NRF_TX` or `HAL_NRF_ALL`.

The transceiver is a file of registers, of which a write reaches some of the bits only.
`nrfPipeCall_frame_iff` says which calls change, in every state and whatever transfers fail,
nothing but what belongs to the selected pipes: `hal_nrf_set_rx_payload_width` does not know the
two selectors that are no pipes, and writes to `FIFO_STATUS` or to `TX_ADDR` for them.

* `MayChange` is what a call may change: the bits of the selected pipes, and `TX_ADDR` where it is
  asked for. `Frame` says that it changes no others.
* `masked` is the bus to a transceiver in which some bits cannot be written. The condition
  (`NrfPipeCall.Safe`) is about them: what a call does to bits that are not its own must not get
  through.

**Main result.** `nrfPipeCall_frame_iff`, for every call and every mask of bits that can be
written; `nrfWritable` is the mask of the data sheet.
-/

namespace Librasp

/-! ### The model -/

/-- A call of one of the functions of the pipes. -/
inductive NrfPipeCall
  | configRxPipe (pipeNum : HalNrfAddress) (addr : Option (ℕ → UInt8)) (autoAck : Bool)
    (ploadWidth : UInt8)
  | rxPayloadWidth (pipeNum : HalNrfAddress) (ploadWidth : UInt8)
  | address (pipeNum : HalNrfAddress) (addr : ℕ → UInt8)
  | openPipe (pipeNum : HalNrfAddress) (autoAck : Bool)
  | closePipe (pipeNum : HalNrfAddress)

namespace NrfPipeCall

/-- The pipe selector of a call. -/
def pipeNum : NrfPipeCall → HalNrfAddress
  | configRxPipe pipeNum _ _ _ => pipeNum
  | rxPayloadWidth pipeNum _ => pipeNum
  | address pipeNum _ => pipeNum
  | openPipe pipeNum _ => pipeNum
  | closePipe pipeNum => pipeNum

/-- What a call does. -/
def exec {δ : Type} (b : NrfBus δ) : NrfPipeCall → NrfM δ Unit
  | configRxPipe pipeNum addr autoAck ploadWidth =>
    halNrfConfigRxPipe b pipeNum addr autoAck ploadWidth
  | rxPayloadWidth pipeNum ploadWidth => halNrfSetRxPayloadWidth b pipeNum ploadWidth
  | address pipeNum addr => halNrfSetAddress b pipeNum addr
  | openPipe pipeNum autoAck => halNrfOpenPipe b pipeNum autoAck
  | closePipe pipeNum => halNrfClosePipe b pipeNum

end NrfPipeCall

namespace RegFile

/-- The bits of a mask from one register file, the others from another. -/
def merge (m : ℕ → UInt8) (d d' : RegFile) : RegFile := fun r j =>
  (d r j &&& ~~~m r) ||| (d' r j &&& m r)

/-- The bus to a transceiver of whose registers a write reaches the bits of a mask. What transfers
fail, and what they leave, is that of the bus. -/
def masked (m : ℕ → UInt8) (b : NrfBus RegFile) : NrfBus RegFile :=
  { b with answer := fun d tx => ((answer d tx).1, d.merge m (answer d tx).2) }

end RegFile

/-! ### What may change -/

/-- The bits of the selected pipes: those in `EN_AA` and `EN_RXADDR`, the address and the payload
width. -/
def HalNrfAddress.OwnsBit (pipeNum : HalNrfAddress) (r j : ℕ) (i : Fin 8) : Prop :=
  ∃ p : Fin 6, pipeNum.Covers p ∧
    (((r = 0x01 ∨ r = 0x02) ∧ j = 0 ∧ (i : ℕ) = p) ∨ r = 0x0a + p ∨ r = 0x11 + p)

namespace NrfPipeCall

/-- The bits a call may change: those of the selected pipes, and `TX_ADDR` for
`hal_nrf_set_address` with `HAL_NRF_TX`. -/
def MayChange (c : NrfPipeCall) (r j : ℕ) (i : Fin 8) : Prop :=
  c.pipeNum.OwnsBit r j i ∨ (r = 0x10 ∧ ∃ addr, c = address .tx addr)

/-- A call changes no other bits, whatever the registers hold and whichever transfers fail. -/
def Frame (m : ℕ → UInt8) (c : NrfPipeCall) : Prop :=
  ∀ (b : NrfBus RegFile) (s : NrfSt RegFile) (r j : ℕ) (i : Fin 8), ¬ c.MayChange r j i →
    hasBit ((c.exec (RegFile.masked m b) s).2.dev r j) i = hasBit (s.dev r j) i

end NrfPipeCall

/-- The bits 6 and 7 of `EN_AA` and `EN_RXADDR`, which belong to no pipe, cannot be written if all
pipes are selected. -/
def HalNrfAddress.EnableSafe (m : ℕ → UInt8) (pipeNum : HalNrfAddress) : Prop :=
  pipeNum = .all → m 0x01 &&& 0xc0 = 0 ∧ m 0x02 &&& 0xc0 = 0

/-- The selector is a pipe, or what the payload width is written to in its place cannot be
written. -/
def HalNrfAddress.WidthSafe (m : ℕ → UInt8) : HalNrfAddress → Prop
  | pipe _ => True
  | tx => m 0x17 = 0
  | all => m 0x10 = 0

/-- When a call changes what it may only. -/
def NrfPipeCall.Safe (m : ℕ → UInt8) : NrfPipeCall → Prop
  | configRxPipe pipeNum addr _ _ => pipeNum.EnableSafe m ∧ pipeNum.WidthSafe m ∧
      (pipeNum = .tx → addr.isSome → m 0x10 = 0)
  | rxPayloadWidth pipeNum _ => pipeNum.WidthSafe m
  | address _ _ => True
  | openPipe pipeNum _ => pipeNum.EnableSafe m
  | closePipe pipeNum => pipeNum.EnableSafe m

/-! ### Transfers -/

section Transfers

open RegFile

variable {m : ℕ → UInt8} {b : NrfBus RegFile} {s : NrfSt RegFile}

theorem hasBit_merge (m : ℕ → UInt8) (d d' : RegFile) (r j : ℕ) (i : Fin 8) :
    hasBit (d.merge m d' r j) i =
      if hasBit (m r) i then hasBit (d' r j) i else hasBit (d r j) i := by
  rw [merge, hasBit_or, hasBit_and, hasBit_and, hasBit_not]
  rcases hasBit (m r) i with _ | _
  · simp
  · simp

theorem merge_self (m : ℕ → UInt8) (d : RegFile) : d.merge m d = d := by
  funext r j
  refine eq_of_hasBit fun i => ?_
  rw [hasBit_merge, ite_self]

/-- A bit that the new contents leave is left. -/
theorem hasBit_merge_eq {d d' : RegFile} {r j : ℕ} {i : Fin 8}
    (h : hasBit (m r) i = true → hasBit (d' r j) i = hasBit (d r j) i) :
    hasBit (d.merge m d' r j) i = hasBit (d r j) i := by
  rw [hasBit_merge]
  split_ifs with hm
  · exact h hm
  · rfl

/-- What a transfer makes of the registers: nothing if it fails. -/
theorem nrfTransmit_masked (m : ℕ → UInt8) (b : NrfBus RegFile) (s : NrfSt RegFile)
    (tx : List UInt8) :
    ((nrfTransmit (masked m b) tx s).2.ecomm = true ∧
        (nrfTransmit (masked m b) tx s).2.dev = s.dev) ∨
      ((nrfTransmit (masked m b) tx s).2.ecomm = false ∧
        (nrfTransmit (masked m b) tx s).1 = (answer s.dev tx).1 ∧
        (nrfTransmit (masked m b) tx s).2.dev = s.dev.merge m (answer s.dev tx).2) := by
  rw [nrfTransmit]
  split_ifs
  · exact Or.inl ⟨rfl, rfl⟩
  · exact Or.inr ⟨rfl, rfl, rfl⟩
  · exact Or.inl ⟨rfl, rfl⟩

/-- Reading a register leaves all of them, and tells its contents if it does not fail. -/
theorem readReg_masked {reg : UInt8} (h : reg < Nrf.wRegister) (m : ℕ → UInt8)
    (b : NrfBus RegFile) (s : NrfSt RegFile) :
    (halNrfReadReg (masked m b) reg s).2.dev = s.dev ∧
      ((halNrfReadReg (masked m b) reg s).2.ecomm = false →
        (halNrfReadReg (masked m b) reg s).1 = s.dev reg.toNat 0) := by
  have hstep : (halNrfReadReg (masked m b) reg s).1 = (nrfTransmit (masked m b) [reg, 0] s).1 1 ∧
      (halNrfReadReg (masked m b) reg s).2 = (nrfTransmit (masked m b) [reg, 0] s).2 := ⟨rfl, rfl⟩
  rw [hstep.1, hstep.2]
  obtain ⟨herr, hdev⟩ | ⟨-, hrx, hdev⟩ := nrfTransmit_masked m b s [reg, 0]
  · exact ⟨hdev, fun hok => Bool.noConfusion (hok.symm.trans herr)⟩
  · rw [answer_read h] at hrx hdev
    rw [hdev, merge_self, hrx]
    exact ⟨rfl, fun _ => rfl⟩

/-- Bytes are written to a register: the other registers are left, and all of them if it cannot be
written. -/
theorem write_masked {reg : UInt8} (h : reg < Nrf.wRegister) (m : ℕ → UInt8) (b : NrfBus RegFile)
    (s : NrfSt RegFile) (data : List UInt8) :
    (nrfTransmit (masked m b) ((Nrf.wRegister + reg) :: data) s).2.dev = s.dev ∨
      (nrfTransmit (masked m b) ((Nrf.wRegister + reg) :: data) s).2.dev =
        s.dev.merge m (s.dev.write reg.toNat data) := by
  obtain ⟨-, hdev⟩ | ⟨-, -, hdev⟩ := nrfTransmit_masked m b s ((Nrf.wRegister + reg) :: data)
  · exact Or.inl hdev
  · rw [answer_write h] at hdev
    exact Or.inr hdev

theorem setReg_masked {reg : UInt8} (h : reg < Nrf.wRegister) (m : ℕ → UInt8) (b : NrfBus RegFile)
    (s : NrfSt RegFile) (v : UInt8) :
    (halNrfSetReg (masked m b) reg v s).2.dev = s.dev ∨
      (halNrfSetReg (masked m b) reg v s).2.dev = s.dev.merge m (s.dev.put reg.toNat v) := by
  rw [← write_singleton]
  exact write_masked h m b s [v]

/-- A bit outside a register, or one that cannot be written, is left by a write. -/
theorem hasBit_of_write {d d' : RegFile} {reg : ℕ} {data : List UInt8}
    (h : d' = d ∨ d' = d.merge m (d.write reg data)) {r j : ℕ} {i : Fin 8}
    (hr : r ≠ reg ∨ m reg = 0) : hasBit (d' r j) i = hasBit (d r j) i := by
  obtain rfl | rfl := h
  · rfl
  · refine hasBit_merge_eq fun hm => ?_
    have hne : r ≠ reg := by
      rcases hr with hr | h0
      · exact hr
      · rintro rfl
        rw [h0] at hm
        exact absurd hm (by simp [hasBit])
    rw [write, if_neg fun hall => hne hall.1]

/-- `CHK_SPI_ERR` before a program that leaves a bit. -/
theorem hasBit_chkSpiErr {next : NrfM RegFile Unit} {r j : ℕ} {i : Fin 8}
    (h : hasBit ((next s).2.dev r j) i = hasBit (s.dev r j) i) :
    hasBit ((chkSpiErr next s).2.dev r j) i = hasBit (s.dev r j) i := by
  rw [chkSpiErr]
  split_ifs
  · rfl
  · exact h

/-- A register is written: a bit that is to be what it is stays. -/
theorem hasBit_setReg {reg : UInt8} (hreg : reg < Nrf.wRegister) {v : UInt8} {r j : ℕ} {i : Fin 8}
    (h : r = reg.toNat → j = 0 → hasBit (m r) i = true → hasBit v i = hasBit (s.dev r j) i) :
    hasBit ((halNrfSetReg (masked m b) reg v s).2.dev r j) i = hasBit (s.dev r j) i := by
  obtain hdev | hdev := setReg_masked hreg m b s v
  · rw [hdev]
  · rw [hdev]
    refine hasBit_merge_eq fun hm => ?_
    rw [put]
    split_ifs with hcell
    · exact h hcell.1 hcell.2 hm
    · rfl

/-- The two registers of the pipes are written. -/
theorem hasBit_setPipes {v w : UInt8} {r j : ℕ} {i : Fin 8}
    (hv : r = 0x02 → j = 0 → hasBit (m r) i = true → hasBit v i = hasBit (s.dev r j) i)
    (hw : r = 0x01 → j = 0 → hasBit (m r) i = true → hasBit w i = hasBit (s.dev r j) i) :
    hasBit ((((do
      halNrfSetReg (masked m b) Nrf.enRxaddr v
      chkSpiErr (halNrfSetReg (masked m b) Nrf.enAa w)) : NrfM RegFile Unit) s).2.dev r j) i =
        hasBit (s.dev r j) i := by
  have hlt : Nrf.enRxaddr < Nrf.wRegister ∧ Nrf.enAa < Nrf.wRegister := by decide
  have hfst : hasBit ((halNrfSetReg (masked m b) Nrf.enRxaddr v s).2.dev r j) i =
      hasBit (s.dev r j) i := hasBit_setReg hlt.1 hv
  rw [nrfM_bind]
  generalize (halNrfSetReg (masked m b) Nrf.enRxaddr v s).2 = s' at hfst ⊢
  rw [← hfst] at hw ⊢
  exact hasBit_chkSpiErr (hasBit_setReg hlt.2 hw)

/-- `EN_RXADDR` and `EN_AA` are changed: a bit that the change leaves stays. What is written comes
from what was read, as every read is checked, also where a transfer between them fails. -/
theorem hasBit_updatePipes {change : Option (UInt8 × UInt8 → UInt8 × UInt8)} {r j : ℕ} {i : Fin 8}
    (hrx : ∀ f, change = some f → r = 0x02 → j = 0 → hasBit (m r) i = true →
      hasBit (f (s.dev 0x02 0, s.dev 0x01 0)).1 i = hasBit (s.dev r j) i)
    (haa : ∀ f, change = some f → r = 0x01 → j = 0 → hasBit (m r) i = true →
      hasBit (f (s.dev 0x02 0, s.dev 0x01 0)).2 i = hasBit (s.dev r j) i) :
    hasBit ((halNrfUpdatePipes (masked m b) change s).2.dev r j) i = hasBit (s.dev r j) i := by
  have hlt : Nrf.enRxaddr < Nrf.wRegister ∧ Nrf.enAa < Nrf.wRegister := by decide
  obtain ⟨hdev₁, hval₁⟩ := readReg_masked hlt.1 m b s
  rw [halNrfUpdatePipes, nrfM_bind]
  generalize halNrfReadReg (masked m b) Nrf.enRxaddr s = r₁ at hdev₁ hval₁ ⊢
  rw [chkSpiErr]
  split_ifs with he₁
  · rw [hdev₁]
  obtain ⟨hdev₂, hval₂⟩ := readReg_masked hlt.2 m b r₁.2
  rw [nrfM_bind]
  generalize halNrfReadReg (masked m b) Nrf.enAa r₁.2 = r₂ at hdev₂ hval₂ ⊢
  rw [chkSpiErr]
  split_ifs with he₂
  · rw [hdev₂, hdev₁]
  rw [hdev₁] at hdev₂ hval₂
  rcases change with _ | f
  · exact congrArg (fun d : RegFile => hasBit (d r j) i) hdev₂
  · have hv₁ : r₁.1 = s.dev 0x02 0 := hval₁ (Bool.eq_false_of_not_eq_true he₁)
    have hv₂ : r₂.1 = s.dev 0x01 0 := hval₂ (Bool.eq_false_of_not_eq_true he₂)
    rw [← hdev₂] at hrx haa ⊢
    refine hasBit_setPipes (fun hr hj hm => ?_) fun hr hj hm => ?_
    · rw [hv₁, hv₂, ← hdev₂]
      exact hrx f rfl hr hj hm
    · rw [hv₁, hv₂, ← hdev₂]
      exact haa f rfl hr hj hm

end Transfers

/-! ### The functions -/

section Functions

open RegFile

variable {m : ℕ → UInt8} {b : NrfBus RegFile} {s : NrfSt RegFile} {pipeNum : HalNrfAddress}
  {r j : ℕ} {i : Fin 8}

theorem HalNrfAddress.ownsBit_enable {p : Fin 6} (h : pipeNum.Covers p)
    (hr : r = 0x01 ∨ r = 0x02) (hj : j = 0) (hi : (i : ℕ) = p) : pipeNum.OwnsBit r j i :=
  ⟨p, h, Or.inl ⟨hr, hj, hi⟩⟩

/-- A bit of `EN_AA` or `EN_RXADDR` that is not among those of all pipes is bit 6 or 7. -/
theorem hasBit_reserved (hr : r = 0x01 ∨ r = 0x02) (hj : j = 0)
    (h : ¬ HalNrfAddress.all.OwnsBit r j i) : hasBit 0xc0 i = true := by
  have h6 : ∀ i : Fin 8, ¬ (i : ℕ) < 6 → hasBit 0xc0 i = true := by decide
  refine h6 i fun hlt => h ?_
  exact HalNrfAddress.ownsBit_enable (p := ⟨i, hlt⟩) (HalNrfAddress.covers_all _) hr hj rfl

/-- A bit of a mask that has no bits in common with another. -/
theorem hasBit_of_and_eq_zero {v w : UInt8} (h : v &&& w = 0) (hv : hasBit v i = true) :
    hasBit w i = false := by
  have hand := hasBit_and v w i
  rw [h, hv, Bool.true_and] at hand
  rw [← hand]
  simp [hasBit]

/-- A change of the bits of a pipe, or of all of them. -/
theorem frame_updatePipes {change : Option (UInt8 × UInt8 → UInt8 × UInt8)}
    (hsafe : pipeNum.EnableSafe m) (h : ¬ pipeNum.OwnsBit r j i)
    (htx : pipeNum = .tx → change = none)
    (hpipe : ∀ p f, pipeNum = .pipe p → change = some f → ∀ (v w : UInt8) (i : Fin 8),
      (i : ℕ) ≠ p → hasBit (f (v, w)).1 i = hasBit v i ∧ hasBit (f (v, w)).2 i = hasBit w i) :
    hasBit ((halNrfUpdatePipes (masked m b) change s).2.dev r j) i = hasBit (s.dev r j) i := by
  rcases pipeNum with p | _ | _
  · have hne : (r = 0x01 ∨ r = 0x02) → j = 0 → (i : ℕ) ≠ p := fun hr hj hi =>
      h (HalNrfAddress.ownsBit_enable (HalNrfAddress.covers_pipe p) hr hj hi)
    refine hasBit_updatePipes ?_ ?_
    · rintro f hf rfl rfl -
      exact (hpipe p f rfl hf _ _ i (hne (Or.inr rfl) rfl)).1
    · rintro f hf rfl rfl -
      exact (hpipe p f rfl hf _ _ i (hne (Or.inl rfl) rfl)).2
  · rw [htx rfl]
    refine hasBit_updatePipes ?_ ?_
    · intro f hf
      exact absurd hf.symm (Option.some_ne_none f)
    · intro f hf
      exact absurd hf.symm (Option.some_ne_none f)
  · -- the bits that belong to no pipe are not reached
    obtain ⟨haa, hrx⟩ := hsafe rfl
    have hreach : r = 0x01 ∨ r = 0x02 → m r &&& 0xc0 = 0 → j = 0 → ¬ hasBit (m r) i = true := by
      intro hr hzero hj hm
      have hres := hasBit_of_and_eq_zero hzero hm
      rw [hasBit_reserved hr hj h] at hres
      exact Bool.noConfusion hres
    refine hasBit_updatePipes ?_ ?_
    · rintro f - rfl hj hm
      exact absurd hm (hreach (Or.inr rfl) hrx hj)
    · rintro f - rfl hj hm
      exact absurd hm (hreach (Or.inl rfl) haa hj)

theorem frame_openPipe (hsafe : pipeNum.EnableSafe m) (h : ¬ pipeNum.OwnsBit r j i)
    (autoAck : Bool) :
    hasBit ((halNrfOpenPipe (masked m b) pipeNum autoAck s).2.dev r j) i =
      hasBit (s.dev r j) i := by
  unfold halNrfOpenPipe
  refine frame_updatePipes hsafe h ?_ ?_
  · rintro rfl
    rfl
  · rintro p f rfl hf v w i hi
    obtain rfl := Option.some.inj hf
    have hp : (p : ℕ) < 8 := by omega
    refine ⟨?_, hasBit_putBit_of_ne w hp autoAck hi⟩
    rw [hasBit_setBit v hp, decide_eq_false hi, Bool.or_false]

theorem frame_closePipe (hsafe : pipeNum.EnableSafe m) (h : ¬ pipeNum.OwnsBit r j i) :
    hasBit ((halNrfClosePipe (masked m b) pipeNum s).2.dev r j) i = hasBit (s.dev r j) i := by
  unfold halNrfClosePipe
  refine frame_updatePipes hsafe h ?_ ?_
  · rintro rfl
    rfl
  · rintro p f rfl hf v w i hi
    obtain rfl := Option.some.inj hf
    have hp : (p : ℕ) < 8 := by omega
    exact ⟨hasBit_putBit_of_ne v hp false hi, hasBit_putBit_of_ne w hp false hi⟩

/-- The register that the payload width of a selector is written to. -/
def HalNrfAddress.widthReg : HalNrfAddress → ℕ
  | pipe p => 0x11 + p
  | tx => 0x17
  | all => 0x10

theorem toNat_widthReg (pipeNum : HalNrfAddress) :
    (Nrf.rxPwP0 + pipeNum.code).toNat = pipeNum.widthReg := by
  rcases pipeNum with p | _ | _
  · fin_cases p <;> rfl
  · rfl
  · rfl

theorem widthReg_lt (pipeNum : HalNrfAddress) : Nrf.rxPwP0 + pipeNum.code < Nrf.wRegister := by
  rw [UInt8.lt_iff_toNat_lt, toNat_widthReg, show Nrf.wRegister.toNat = 32 from rfl]
  rcases pipeNum with p | _ | _
  · rw [HalNrfAddress.widthReg]
    omega
  · decide
  · decide

/-- Writing a payload width: one register is changed, if it can be written. -/
theorem frame_setRxPayloadWidth (hr : r ≠ pipeNum.widthReg ∨ m pipeNum.widthReg = 0)
    (ploadWidth : UInt8) :
    hasBit ((halNrfSetRxPayloadWidth (masked m b) pipeNum ploadWidth s).2.dev r j) i =
      hasBit (s.dev r j) i := by
  have hdev := setReg_masked (widthReg_lt pipeNum) m b s ploadWidth
  rw [← write_singleton, toNat_widthReg] at hdev
  exact hasBit_of_write hdev hr

/-- The register of a payload width belongs to the pipe, or cannot be written. For the selectors
that are no pipes it is `FIFO_STATUS`, behind the widths, or `TX_ADDR`, before them. -/
theorem WidthSafe.frame (hsafe : pipeNum.WidthSafe m) (h : ¬ pipeNum.OwnsBit r j i) :
    r ≠ pipeNum.widthReg ∨ m pipeNum.widthReg = 0 := by
  rcases pipeNum with p | _ | _
  · left
    rintro rfl
    exact h ⟨p, HalNrfAddress.covers_pipe p, Or.inr (Or.inr rfl)⟩
  · exact Or.inr hsafe
  · exact Or.inr hsafe

/-- The register of the address of a pipe or of the transmitter. -/
theorem toNat_addressReg (p : Fin 6) : Nrf.rxAddrP0 + HalNrfAddress.code (.pipe p) < Nrf.wRegister ∧
    (Nrf.rxAddrP0 + HalNrfAddress.code (.pipe p)).toNat = 0x0a + p := by
  revert p
  decide

/-- The width is read, and an address of that many bytes is written to one register. -/
theorem frame_multibyte {reg : UInt8} (hreg : reg < Nrf.wRegister)
    (hr : r ≠ reg.toNat ∨ m reg.toNat = 0) (data : UInt8 → List UInt8) :
    hasBit ((unchecked Nrf.setupAw (fun v => (Nrf.wRegister + reg) :: data v) (masked m b) s).2.dev
      r j) i = hasBit (s.dev r j) i := by
  have hread := (readReg_masked (show Nrf.setupAw < Nrf.wRegister by decide) m b s).1
  rw [unchecked, nrfM_bind]
  generalize halNrfReadReg (masked m b) Nrf.setupAw s = x at hread ⊢
  rw [← hread]
  exact hasBit_of_write (write_masked hreg m b x.2 (data x.1)) hr

/-- An address of several bytes is written. -/
theorem frame_setAddress_multibyte {reg : UInt8} (hsel : pipeNum.multibyte = true)
    (hcode : Nrf.rxAddrP0 + pipeNum.code = reg) (hreg : reg < Nrf.wRegister)
    (hr : r ≠ reg.toNat ∨ m reg.toNat = 0) (addr : ℕ → UInt8) :
    hasBit ((halNrfSetAddress (masked m b) pipeNum addr s).2.dev r j) i =
      hasBit (s.dev r j) i := by
  have hmulti : halNrfSetAddress (masked m b) pipeNum addr =
      unchecked Nrf.setupAw (addressTx pipeNum addr) (masked m b) :=
    congrFun (halNrfSetAddress_multibyte hsel addr) (masked m b)
  have htx : addressTx pipeNum addr = fun v =>
      (Nrf.wRegister + reg) :: (List.range (v + 2).toNat).map addr := by
    funext v
    rw [addressTx, UInt8.add_assoc, hcode]
  rw [hmulti, htx]
  exact frame_multibyte hreg hr _

/-- Writing an address: only the address of the pipe or of the transmitter is changed. -/
theorem frame_setAddress (h : ¬ pipeNum.OwnsBit r j i)
    (htx : pipeNum = .tx → r ≠ 0x10 ∨ m 0x10 = 0) (addr : ℕ → UInt8) :
    hasBit ((halNrfSetAddress (masked m b) pipeNum addr s).2.dev r j) i =
      hasBit (s.dev r j) i := by
  rcases pipeNum with p | _ | _
  · have hown : r ≠ 0x0a + p := by
      rintro rfl
      exact h ⟨p, HalNrfAddress.covers_pipe p, Or.inr (Or.inl rfl)⟩
    obtain ⟨hlt, hnum⟩ := toNat_addressReg p
    rw [← hnum] at hown
    by_cases hp : p < 2
    · have hsel : (HalNrfAddress.pipe p).multibyte = true := decide_eq_true hp
      exact frame_setAddress_multibyte hsel rfl hlt (Or.inl hown) addr
    · rw [halNrfSetAddress, if_neg hp]
      exact hasBit_setReg hlt fun hr => absurd hr hown
  · have hcode : Nrf.rxAddrP0 + HalNrfAddress.code .tx = 0x10 := rfl
    exact frame_setAddress_multibyte rfl hcode (by decide) (htx rfl) addr
  · rfl

/-- A configuration of a pipe: it is opened, and its address and its payload width are set. -/
theorem frame_configRxPipe {addr : Option (ℕ → UInt8)} (hopen : pipeNum.EnableSafe m)
    (hwidth : pipeNum.WidthSafe m) (haddr : pipeNum = .tx → addr.isSome → m 0x10 = 0)
    (h : ¬ pipeNum.OwnsBit r j i) (autoAck : Bool) (ploadWidth : UInt8) :
    hasBit ((halNrfConfigRxPipe (masked m b) pipeNum addr autoAck ploadWidth s).2.dev r j) i =
      hasBit (s.dev r j) i := by
  have hfst := frame_openPipe (b := b) (s := s) hopen h autoAck
  unfold halNrfConfigRxPipe
  rw [nrfM_bind]
  generalize (halNrfOpenPipe (masked m b) pipeNum autoAck s).2 = s₁ at hfst ⊢
  rw [← hfst]
  refine hasBit_chkSpiErr ?_
  rcases addr with _ | addr
  · exact frame_setRxPayloadWidth (WidthSafe.frame hwidth h) ploadWidth
  · have hsnd := frame_setAddress (b := b) (s := s₁) h
      (fun htx => Or.inr (haddr htx rfl)) addr
    change hasBit (((halNrfSetAddress (masked m b) pipeNum addr >>= fun _ =>
      chkSpiErr (halNrfSetRxPayloadWidth (masked m b) pipeNum ploadWidth)) s₁).2.dev r j) i = _
    rw [nrfM_bind]
    generalize (halNrfSetAddress (masked m b) pipeNum addr s₁).2 = s₂ at hsnd ⊢
    rw [← hsnd]
    exact hasBit_chkSpiErr (frame_setRxPayloadWidth (WidthSafe.frame hwidth h) ploadWidth)

end Functions

/-- A call that is safe changes what it may only. -/
theorem NrfPipeCall.Safe.frame {m : ℕ → UInt8} {c : NrfPipeCall} (h : c.Safe m) : c.Frame m := by
  intro b s r j i hnot
  have hown : ¬ c.pipeNum.OwnsBit r j i := fun hown => hnot (Or.inl hown)
  cases c with
  | configRxPipe pipeNum addr autoAck ploadWidth =>
    exact frame_configRxPipe h.1 h.2.1 h.2.2 hown autoAck ploadWidth
  | rxPayloadWidth pipeNum ploadWidth =>
    exact frame_setRxPayloadWidth (WidthSafe.frame h hown) ploadWidth
  | address pipeNum addr =>
    refine frame_setAddress hown (fun htx => Or.inl fun hr => ?_) addr
    obtain rfl := htx
    exact hnot (Or.inr ⟨hr, addr, rfl⟩)
  | openPipe pipeNum autoAck => exact frame_openPipe h hown autoAck
  | closePipe pipeNum => exact frame_closePipe h hown

/-! ### Calls that are not safe -/

section Unsafe

open RegFile

variable {m : ℕ → UInt8} (s : NrfSt RegFile)

/-- A read that succeeds. -/
theorem readReg_maskedBus {reg : UInt8} (h : reg < Nrf.wRegister) (m : ℕ → UInt8) :
    halNrfReadReg (masked m bus) reg s =
      (s.dev reg.toNat 0, ⟨s.dev, s.n + 1, false, s.sent ++ [[reg, 0]]⟩) := by
  have hanswer : nrfTransmit (masked m bus) [reg, 0] s = ((answer s.dev [reg, 0]).1,
      ⟨s.dev.merge m (answer s.dev [reg, 0]).2, s.n + 1, false, s.sent ++ [[reg, 0]]⟩) := rfl
  rw [halNrfReadReg, nrfM_bind, hanswer, answer_read h, merge_self]
  rfl

/-- A write that succeeds. -/
theorem setReg_maskedBus {reg : UInt8} (h : reg < Nrf.wRegister) (m : ℕ → UInt8) (v : UInt8) :
    halNrfSetReg (masked m bus) reg v s = ((), ⟨s.dev.merge m (s.dev.put reg.toNat v), s.n + 1,
      false, s.sent ++ [[Nrf.wRegister + reg, v]]⟩) := by
  have hanswer : halNrfSetReg (masked m bus) reg v s = ((),
      ⟨s.dev.merge m (answer s.dev [Nrf.wRegister + reg, v]).2, s.n + 1, false,
        s.sent ++ [[Nrf.wRegister + reg, v]]⟩) := rfl
  rw [hanswer, answer_write h, write_singleton]

/-- A bit that is written. -/
theorem hasBit_setReg_maskedBus {reg : UInt8} (h : reg < Nrf.wRegister) (v : UInt8) {i : Fin 8}
    (hm : hasBit (m reg.toNat) i = true) :
    hasBit ((halNrfSetReg (masked m bus) reg v s).2.dev reg.toNat 0) i = hasBit v i := by
  rw [setReg_maskedBus s h, hasBit_merge, if_pos hm, put_self]

/-- All pipes are opened or closed: what is written. -/
theorem updatePipes_maskedBus (m : ℕ → UInt8) (v w : UInt8) :
    (halNrfUpdatePipes (masked m bus) (some fun _ => (v, w)) s).2.ecomm = false ∧
      (halNrfUpdatePipes (masked m bus) (some fun _ => (v, w)) s).2.dev =
        (s.dev.merge m (s.dev.put 0x02 v)).merge m
          ((s.dev.merge m (s.dev.put 0x02 v)).put 0x01 w) := by
  have hrx : Nrf.enRxaddr < Nrf.wRegister := by decide
  have haa : Nrf.enAa < Nrf.wRegister := by decide
  rw [halNrfUpdatePipes, nrfM_bind, readReg_maskedBus s hrx, chkSpiErr_ok _ rfl, nrfM_bind,
    readReg_maskedBus _ haa, chkSpiErr_ok _ rfl]
  generalize hs' : NrfSt.mk s.dev _ _ _ = s'
  have hdev : s'.dev = s.dev := by rw [← hs']
  show ((((do
    halNrfSetReg (masked m bus) Nrf.enRxaddr v
    chkSpiErr (halNrfSetReg (masked m bus) Nrf.enAa w)) : NrfM RegFile Unit) s').2.ecomm = false) ∧
    (((do
    halNrfSetReg (masked m bus) Nrf.enRxaddr v
    chkSpiErr (halNrfSetReg (masked m bus) Nrf.enAa w)) : NrfM RegFile Unit) s').2.dev = _
  rw [nrfM_bind, setReg_maskedBus _ hrx, chkSpiErr_ok _ rfl, setReg_maskedBus _ haa, hdev]
  exact ⟨rfl, rfl⟩

/-- The bits of all pipes, and the reserved ones if they can be written. -/
theorem hasBit_updatePipes_maskedBus (v w : UInt8) (i : Fin 8) :
    (hasBit (m 0x02) i = true → hasBit ((halNrfUpdatePipes (masked m bus)
      (some fun _ => (v, w)) s).2.dev 0x02 0) i = hasBit v i) ∧
    (hasBit (m 0x01) i = true → hasBit ((halNrfUpdatePipes (masked m bus)
      (some fun _ => (v, w)) s).2.dev 0x01 0) i = hasBit w i) := by
  rw [(updatePipes_maskedBus s m v w).2]
  constructor
  · intro hm
    rw [hasBit_merge, if_pos hm, put_of_ne (by decide), hasBit_merge, if_pos hm, put_self]
  · intro hm
    rw [hasBit_merge, if_pos hm, put_self]

/-- The reserved bits are cleared if they can be written. -/
theorem hasBit_setAll {v w : UInt8} (hv : v &&& 0xc0 = 0) (hw : w &&& 0xc0 = 0) {r : ℕ} {i : Fin 8}
    (hr : r = 0x01 ∨ r = 0x02) (hm : hasBit (m r) i = true) (hres : hasBit 0xc0 i = true) :
    hasBit ((halNrfUpdatePipes (masked m bus) (some fun _ => (v, w)) s).2.dev r 0) i = false := by
  have hclear : ∀ x : UInt8, x &&& 0xc0 = 0 → hasBit x i = false := by
    intro x hx
    by_contra hbit
    have h0 := hasBit_of_and_eq_zero hx (Bool.eq_true_of_not_eq_false hbit)
    exact Bool.noConfusion (h0.symm.trans hres)
  have hbits := hasBit_updatePipes_maskedBus s (m := m) v w i
  obtain rfl | rfl := hr
  · exact (hbits.2 hm).trans (hclear w hw)
  · exact (hbits.1 hm).trans (hclear v hv)

theorem hasBit_openAll (autoAck : Bool) {r : ℕ} {i : Fin 8} (hr : r = 0x01 ∨ r = 0x02)
    (hm : hasBit (m r) i = true) (hres : hasBit 0xc0 i = true) :
    hasBit ((halNrfOpenPipe (masked m bus) .all autoAck s).2.dev r 0) i = false := by
  have haa : (if autoAck then 0x3f else 0 : UInt8) &&& 0xc0 = 0 := by
    rcases autoAck with _ | _ <;> rfl
  exact hasBit_setAll s rfl haa hr hm hres

/-- What follows the opening of a pipe in `hal_nrf_config_rx_pipe`, but for the payload width. -/
def afterAddress (m : ℕ → UInt8) (pipeNum : HalNrfAddress) (addr : Option (ℕ → UInt8))
    (s : NrfSt RegFile) : NrfSt RegFile :=
  match addr with
  | none => s
  | some addr => (halNrfSetAddress (masked m bus) pipeNum addr s).2

/-- The parts of a configuration that succeeds. -/
theorem configRxPipe_maskedBus (m : ℕ → UInt8) {pipeNum : HalNrfAddress}
    (hsel : pipeNum = .tx ∨ pipeNum = .all) (addr : Option (ℕ → UInt8)) (autoAck : Bool)
    (ploadWidth : UInt8) :
    (halNrfConfigRxPipe (masked m bus) pipeNum addr autoAck ploadWidth s).2 =
      (halNrfSetRxPayloadWidth (masked m bus) pipeNum ploadWidth (afterAddress m pipeNum addr
        (halNrfOpenPipe (masked m bus) pipeNum autoAck s).2)).2 := by
  have hopen : (halNrfOpenPipe (masked m bus) pipeNum autoAck s).2.ecomm = false :=
    (checked_openPipe pipeNum autoAck).fine (masked m bus) s rfl (fun _ _ => rfl)
      (Or.inl pipeNum.pipeTransfers_pos)
  unfold halNrfConfigRxPipe
  rw [nrfM_bind]
  generalize (halNrfOpenPipe (masked m bus) pipeNum autoAck s).2 = s₁ at hopen ⊢
  rw [chkSpiErr_ok _ hopen]
  rcases addr with _ | addr
  · rfl
  · have haddr : (halNrfSetAddress (masked m bus) pipeNum addr s₁).2.ecomm = false := by
      obtain rfl | rfl := hsel
      · rfl
      · exact hopen
    change ((halNrfSetAddress (masked m bus) pipeNum addr >>= fun _ =>
      chkSpiErr (halNrfSetRxPayloadWidth (masked m bus) pipeNum ploadWidth)) s₁).2 = _
    rw [nrfM_bind, chkSpiErr_ok _ haddr, afterAddress]

/-- A configuration of all pipes clears the reserved bits, too. -/
theorem hasBit_configAll (addr : Option (ℕ → UInt8)) (autoAck : Bool) (ploadWidth : UInt8) {r : ℕ}
    {i : Fin 8} (hr : r = 0x01 ∨ r = 0x02) (hm : hasBit (m r) i = true)
    (hres : hasBit 0xc0 i = true) :
    hasBit ((halNrfConfigRxPipe (masked m bus) .all addr autoAck ploadWidth s).2.dev r 0) i =
      false := by
  have hne : r ≠ HalNrfAddress.all.widthReg := by
    rw [HalNrfAddress.widthReg]
    omega
  have hsame : ∀ s, afterAddress m .all addr s = s := by
    intro s
    rcases addr with _ | addr <;> rfl
  rw [configRxPipe_maskedBus s m (Or.inr rfl), hsame, frame_setRxPayloadWidth (Or.inl hne)]
  exact hasBit_openAll s autoAck hr hm hres

theorem exists_hasBit {v : UInt8} (h : v ≠ 0) : ∃ i : Fin 8, hasBit v i = true := by
  by_contra hnone
  refine h (eq_of_hasBit fun i => ?_)
  have hi : hasBit v i = false := Bool.eq_false_of_not_eq_true fun hi => hnone ⟨i, hi⟩
  rw [hi]
  simp [hasBit]

theorem not_ownsBit_tx (r j : ℕ) (i : Fin 8) : ¬ HalNrfAddress.tx.OwnsBit r j i := by
  rintro ⟨p, hp | hp, -⟩
  · exact HalNrfAddress.noConfusion hp
  · exact HalNrfAddress.noConfusion hp

theorem not_ownsBit_txAddr (pipeNum : HalNrfAddress) (j : ℕ) (i : Fin 8) :
    ¬ pipeNum.OwnsBit 0x10 j i := by
  rintro ⟨p, -, ⟨hr, -⟩ | hr | hr⟩
  · omega
  · omega
  · omega

/-- A call that ends with writing a payload width must not reach another register. -/
theorem widthSafe_of_frame {c : NrfPipeCall} (h : c.Frame m) {ploadWidth : UInt8}
    (hnot : ∀ addr, c ≠ .address .tx addr)
    (hrun : c.pipeNum = .tx ∨ c.pipeNum = .all → ∀ s, ∃ s', (c.exec (masked m bus) s).2 =
      (halNrfSetRxPayloadWidth (masked m bus) c.pipeNum ploadWidth s').2) :
    c.pipeNum.WidthSafe m := by
  -- a register that holds none of the bits of the width is changed where it can be
  have hzero : c.pipeNum = .tx ∨ c.pipeNum = .all →
      (∀ i, ¬ c.pipeNum.OwnsBit c.pipeNum.widthReg 0 i) → m c.pipeNum.widthReg = 0 := by
    intro hsel hown
    by_contra hne
    obtain ⟨i, hi⟩ := exists_hasBit hne
    have hframe := h bus ⟨fun _ _ => ~~~ploadWidth, 0, false, []⟩ c.pipeNum.widthReg 0 i (by
      rintro (hbit | ⟨-, addr, hc⟩)
      · exact hown i hbit
      · exact hnot addr hc)
    obtain ⟨s', hs'⟩ := hrun hsel ⟨fun _ _ => ~~~ploadWidth, 0, false, []⟩
    rw [← toNat_widthReg] at hi hframe
    rw [hs', halNrfSetRxPayloadWidth, hasBit_setReg_maskedBus s' (widthReg_lt _) ploadWidth hi,
      hasBit_not] at hframe
    exact (Bool.eq_not_self _).mp hframe
  rcases hsel : c.pipeNum with p | _ | _
  · trivial
  · rw [hsel] at hzero
    exact hzero (Or.inl rfl) fun i => not_ownsBit_tx _ 0 i
  · rw [hsel] at hzero
    exact hzero (Or.inr rfl) fun i => not_ownsBit_txAddr .all 0 i

/-- A call that clears the reserved bits of `EN_AA` and `EN_RXADDR` must not reach them. -/
theorem enableSafe_of_frame {c : NrfPipeCall} (h : c.Frame m)
    (hrun : c.pipeNum = .all → ∀ s r (i : Fin 8), r = 0x01 ∨ r = 0x02 → hasBit (m r) i = true →
      hasBit 0xc0 i = true → hasBit ((c.exec (masked m bus) s).2.dev r 0) i = false) :
    c.pipeNum.EnableSafe m := by
  intro hall
  have hzero : ∀ r, r = 0x01 ∨ r = 0x02 → m r &&& 0xc0 = 0 := by
    intro r hr
    by_contra hne
    obtain ⟨i, hi⟩ := exists_hasBit hne
    rw [hasBit_and, Bool.and_eq_true] at hi
    have hres : ∀ i : Fin 8, hasBit 0xc0 i = true → ¬ (i : ℕ) < 6 ∧ hasBit 0xff i = true := by
      decide
    have hframe := h bus ⟨fun _ _ => 0xff, 0, false, []⟩ r 0 i (by
      rintro (⟨p, -, ⟨-, -, hp⟩ | hp | hp⟩ | ⟨hp, -⟩)
      · exact (hres i hi.2).1 (hp ▸ p.isLt)
      · omega
      · omega
      · omega)
    rw [hrun hall _ r i hr hi.1 hi.2] at hframe
    exact Bool.false_ne_true (hframe.trans (hres i hi.2).2)
  exact ⟨hzero 0x01 (Or.inl rfl), hzero 0x02 (Or.inr rfl)⟩

/-- The address of the transmitter is written. -/
theorem setAddress_maskedBus (m : ℕ → UInt8) (addr : ℕ → UInt8) :
    (halNrfSetAddress (masked m bus) .tx addr s).2.dev = s.dev.merge m
      (s.dev.write 0x10 ((List.range (s.dev 0x03 0 + 2).toNat).map addr)) := by
  have hmulti : halNrfSetAddress (masked m bus) .tx addr =
      unchecked Nrf.setupAw (addressTx .tx addr) (masked m bus) :=
    congrFun (halNrfSetAddress_multibyte rfl addr) (masked m bus)
  have hlt : Nrf.setupAw < Nrf.wRegister := by decide
  have htx : (0x10 : UInt8) < Nrf.wRegister := by decide
  have hcode : ∀ v, addressTx .tx addr v =
      (Nrf.wRegister + 0x10) :: (List.range (v + 2).toNat).map addr := fun _ => rfl
  rw [hmulti, unchecked, nrfM_bind, readReg_maskedBus s hlt, hcode]
  generalize hs' : NrfSt.mk s.dev _ _ _ = s'
  have hdev : s'.dev = s.dev := by rw [← hs']
  have hanswer : ∀ tx, (nrfTransmit (masked m bus) tx s').2.dev =
      s'.dev.merge m (answer s'.dev tx).2 := fun _ => rfl
  refine (hanswer _).trans ?_
  rw [answer_write htx, hdev]
  rfl

/-- A configuration of the transmitter with an address must not reach `TX_ADDR`. -/
theorem txAddr_of_frame {addr : ℕ → UInt8} {autoAck : Bool} {ploadWidth : UInt8}
    (h : (NrfPipeCall.configRxPipe .tx (some addr) autoAck ploadWidth).Frame m) : m 0x10 = 0 := by
  by_contra hne
  obtain ⟨i, hi⟩ := exists_hasBit hne
  -- an address width of three bytes, and none of the bits of the address
  let s : NrfSt RegFile := ⟨fun r _ => if r = 0x03 then 1 else ~~~addr 0, 0, false, []⟩
  have hframe := h bus s 0x10 0 i (by
    rintro (hbit | ⟨-, addr', hc⟩)
    · exact not_ownsBit_tx _ _ _ hbit
    · exact NrfPipeCall.noConfusion hc)
  have hopen : (halNrfOpenPipe (masked m bus) .tx autoAck s).2.dev = s.dev := by
    funext r j
    refine eq_of_hasBit fun i => ?_
    exact frame_openPipe (fun htx => HalNrfAddress.noConfusion htx) (not_ownsBit_tx r j i) autoAck
  have hwrite : (s.dev.write 0x10 ((List.range (s.dev 0x03 0 + 2).toNat).map addr)) 0x10 0 =
      addr 0 := rfl
  have hrun : (NrfPipeCall.exec (masked m bus) (.configRxPipe .tx (some addr) autoAck ploadWidth)
      s).2 = _ := configRxPipe_maskedBus s m (Or.inl rfl) (some addr) autoAck ploadWidth
  rw [hrun, frame_setRxPayloadWidth (Or.inl (by decide)), afterAddress, setAddress_maskedBus,
    hasBit_merge, if_pos hi, hopen, hwrite] at hframe
  have hbit : hasBit (s.dev 0x10 0) i = !hasBit (addr 0) i := hasBit_not _ i
  exact (Bool.eq_not_self _).mp (hframe.trans hbit)

end Unsafe

/-- **Pipes.** A call changes only what belongs to the selected pipes, in every state and whatever
transfers fail, exactly if the selector is a pipe, or what the call does to other registers cannot
be written in the transceiver. -/
theorem nrfPipeCall_frame_iff (m : ℕ → UInt8) (c : NrfPipeCall) : c.Frame m ↔ c.Safe m := by
  refine ⟨fun h => ?_, NrfPipeCall.Safe.frame⟩
  cases c with
  | configRxPipe pipeNum addr autoAck ploadWidth =>
    refine ⟨enableSafe_of_frame h ?_, widthSafe_of_frame h (fun _ hc => NrfPipeCall.noConfusion hc)
      fun hsel s => ⟨_, configRxPipe_maskedBus s m hsel addr autoAck ploadWidth⟩, ?_⟩
    · intro hall s r i hr hm hres
      obtain rfl : pipeNum = .all := hall
      exact hasBit_configAll s addr autoAck ploadWidth hr hm hres
    · intro htx hsome
      obtain rfl := htx
      obtain ⟨a, rfl⟩ := Option.isSome_iff_exists.mp hsome
      exact txAddr_of_frame h
  | rxPayloadWidth pipeNum ploadWidth =>
    exact widthSafe_of_frame h (fun _ hc => NrfPipeCall.noConfusion hc) fun _ s => ⟨s, rfl⟩
  | address pipeNum addr => trivial
  | openPipe pipeNum autoAck =>
    refine enableSafe_of_frame h fun hall s r i hr hm hres => ?_
    obtain rfl : pipeNum = .all := hall
    exact hasBit_openAll s autoAck hr hm hres
  | closePipe pipeNum =>
    refine enableSafe_of_frame h fun hall s r i hr hm hres => ?_
    obtain rfl : pipeNum = .all := hall
    exact hasBit_setAll s rfl rfl hr hm hres

/-- The bits that can be written in the transceiver: not the reserved ones of `EN_AA` and
`EN_RXADDR`, and not `FIFO_STATUS`. -/
def nrfWritable (r : ℕ) : UInt8 :=
  if r = 0x01 ∨ r = 0x02 then 0x3f else if r = 0x17 then 0 else 0xff

/-- A payload width of 32 for all pipes is written to `TX_ADDR`. -/
theorem nrfPipeCall_frame_fails :
    ¬ (NrfPipeCall.rxPayloadWidth .all 32).Frame nrfWritable := by
  intro h
  have hframe := h RegFile.bus ⟨fun _ _ => 0xe7, 0, false, []⟩ 0x10 0 0 (by
    rintro (hbit | ⟨-, addr, hc⟩)
    · exact not_ownsBit_txAddr _ _ _ hbit
    · exact NrfPipeCall.noConfusion hc)
  exact absurd hframe (by decide)

end Librasp
