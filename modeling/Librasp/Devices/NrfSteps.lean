import Librasp.Devices.NrfPipes
import Librasp.Devices.NrfTransmit

/-!
# Set-ups

A program sets up the transceiver by calls in a row, some of them in `NRF_EXEC`, which gives up on
an error, and some of them not. Transfers may fail at any time.

* A setter that checks its transfers does all that it should if there is no error, and in any case
  changes no byte but to what it should be (`exec_partMade`).
* `hal_nrf_set_output_power` does not check its read: it may write into `RF_SETUP` what the failed
  read left in the buffer (`outputPower_partMade`).
* A field that a call in `NRF_EXEC` sets and that the calls after it leave is set where the
  program gets to its end (`steps_set`).

The first of these is about bytes (`PartMade`), and what follows about fields: a field in one byte
is what it was or what it should be, and so is kept by a call that would set it to the value it
has (`keeps_of_value`), even if this call is cut short. The data rate has an invariant of its own
(`Rated`), as it shares its register with the output power.
-/

namespace Librasp

section Model

variable {δ : Type} (b : NrfBus δ)

/-- A step of a set-up. -/
structure NrfStep where
  call : NrfSetter
  /-- `NRF_EXEC` is around the call. -/
  checked : Bool

/-- A set-up. -/
def nrfSteps : List NrfStep → NrfM δ Bool
  | [] => pure true
  | st :: sts =>
    if st.checked then nrfExec (st.call.exec b) (nrfSteps sts)
    else do
      st.call.exec b
      nrfSteps sts

variable {b}

/-- `CHK_SPI_ERR` in a function that is called in `NRF_EXEC`. -/
theorem nrfExec_chk (m m' : NrfM δ Unit) (next : NrfM δ Bool) :
    nrfExec (do m; chkSpiErr m') next = nrfExec m (nrfExec m' next) := by
  funext s
  rw [nrfExec, nrfExec, RegFile.nrfM_bind, RegFile.nrfM_bind, RegFile.nrfM_bind, chkSpiErr]
  rcases h : (m s).2.ecomm with _ | _
  · rw [if_neg Bool.false_ne_true, if_neg Bool.false_ne_true]
    rfl
  · rw [if_pos rfl, if_pos rfl, if_pos h]

end Model

open RegFile

/-! ### Transfers that fail -/

/-- What a call has made of the registers `d` that should make `d'` of them: all of it if there is
no error, and in any case nothing else. -/
structure PartMade (d d' : RegFile) (s : NrfSt RegFile) : Prop where
  done : s.ecomm = false → s.dev = d'
  part : ∀ r j, s.dev r j = d r j ∨ s.dev r j = d' r j

theorem partMade_self {d d' : RegFile} {s : NrfSt RegFile} (herr : s.ecomm = true)
    (hdev : s.dev = d) : PartMade d d' s where
  done h := nomatch herr.symm.trans h
  part _ _ := Or.inl (by rw [hdev])

theorem partMade_of_eq {d d' : RegFile} {s : NrfSt RegFile} (hdev : s.dev = d') :
    PartMade d d' s where
  done _ := hdev
  part _ _ := Or.inr (by rw [hdev])

/-- Transfers are counted. -/
theorem transmit_n_le {δ : Type} (b : NrfBus δ) (tx : List UInt8) (s : NrfSt δ) :
    s.n ≤ (nrfTransmit b tx s).2.n := by
  rw [nrfTransmit]
  split_ifs
  · exact Nat.le_succ s.n
  · exact Nat.le_succ s.n
  · exact Nat.le_refl s.n

theorem exec_n_le {δ : Type} (b : NrfBus δ) (c : NrfSetter) (s : NrfSt δ) :
    s.n ≤ (c.exec b s).2.n :=
  setter_keeps (P := fun s' => s.n ≤ s'.n)
    (fun cmd data _ s' h => h.trans (transmit_n_le b (cmd :: data) s')) c s (Nat.le_refl s.n)

section Failing

variable {b : NrfBus RegFile} (hb : b.answer = answer) (s : NrfSt RegFile)

include hb

/-- A transfer fails and leaves the registers, or is answered. -/
theorem transmit_cases (tx : List UInt8) :
    ((nrfTransmit b tx s).2.ecomm = true ∧ (nrfTransmit b tx s).2.dev = s.dev) ∨
      ((nrfTransmit b tx s).2.ecomm = false ∧ (nrfTransmit b tx s).1 = (answer s.dev tx).1 ∧
        (nrfTransmit b tx s).2.dev = (answer s.dev tx).2) := by
  rcases ho : b.opened with _ | _
  · rw [nrfTransmit_closed ho]
    exact Or.inl ⟨rfl, rfl⟩
  · rcases hf : b.fails s.n with _ | _
    · rw [nrfTransmit_ok ho hf, hb]
      exact Or.inr ⟨rfl, rfl, rfl⟩
    · rw [nrfTransmit_fails ho hf]
      exact Or.inl ⟨rfl, rfl⟩

/-- A command of one byte leaves the registers. -/
theorem command_dev (cmd : UInt8) : (halNrfCommand b cmd s).2.dev = s.dev := by
  have hcmd : (answer s.dev [cmd]).2 = s.dev := by
    rw [answer]
    split_ifs
    · rfl
    · funext r j
      exact if_neg fun h => absurd h.2.1 (Nat.not_lt_zero j)
    · rfl
  rcases transmit_cases hb s [cmd] with ⟨-, hdev⟩ | ⟨-, -, hdev⟩
  · exact hdev
  · exact hdev.trans hcmd

theorem readReg_dev {reg : UInt8} (h : reg < Nrf.wRegister) :
    (halNrfReadReg b reg s).2.dev = s.dev := by
  rcases transmit_cases hb s [reg, 0] with ⟨-, hdev⟩ | ⟨-, -, hdev⟩
  · exact hdev
  · rw [answer_read h] at hdev
    exact hdev

theorem readReg_eq {reg : UInt8} (h : reg < Nrf.wRegister)
    (hok : (halNrfReadReg b reg s).2.ecomm = false) :
    (halNrfReadReg b reg s).1 = s.dev reg.toNat 0 := by
  rcases transmit_cases hb s [reg, 0] with ⟨herr, -⟩ | ⟨-, hrx, -⟩
  · exact nomatch herr.symm.trans hok
  · rw [answer_read h] at hrx
    exact congrFun hrx 1

theorem setReg_partMade {reg : UInt8} (h : reg < Nrf.wRegister) (v : UInt8) :
    PartMade s.dev (s.dev.put reg.toNat v) (halNrfSetReg b reg v s).2 := by
  rcases transmit_cases hb s [Nrf.wRegister + reg, v] with ⟨herr, hdev⟩ | ⟨-, -, hdev⟩
  · exact partMade_self herr hdev
  · rw [answer_write h, write_singleton] at hdev
    exact partMade_of_eq hdev

theorem updateReg_partMade {reg : UInt8} (h : reg < Nrf.wRegister) (f : UInt8 → UInt8) :
    PartMade s.dev (s.dev.put reg.toNat (f (s.dev reg.toNat 0))) (halNrfUpdateReg b reg f s).2 := by
  have hdev := readReg_dev hb s h
  rw [halNrfUpdateReg, nrfM_bind, chkSpiErr]
  split_ifs with herr
  · exact partMade_self herr hdev
  · have hset := setReg_partMade hb (halNrfReadReg b reg s).2 h (f (halNrfReadReg b reg s).1)
    rw [hdev] at hset
    rw [readReg_eq hb s h (Bool.eq_false_iff.mpr herr)] at hset ⊢
    exact hset

/-- The two registers of the pipes are written one after the other. -/
theorem setPipes_partMade (v w : UInt8) :
    PartMade s.dev ((s.dev.put 0x02 v).put 0x01 w) ((do
      halNrfSetReg b Nrf.enRxaddr v
      chkSpiErr (halNrfSetReg b Nrf.enAa w) : NrfM RegFile Unit) s).2 := by
  have hrx := setReg_partMade hb s (show Nrf.enRxaddr < Nrf.wRegister by decide) v
  have haa := setReg_partMade hb (halNrfSetReg b Nrf.enRxaddr v s).2
    (show Nrf.enAa < Nrf.wRegister by decide) w
  rw [nrfM_bind, chkSpiErr]
  split_ifs with herr
  · -- `EN_AA` is not written, and `EN_RXADDR` may be
    refine ⟨fun h => Bool.noConfusion (herr.symm.trans h), fun r j => ?_⟩
    by_cases hr : r = 0x01
    · obtain rfl := hr
      rcases hrx.part 0x01 j with h | h
      · exact Or.inl h
      · exact Or.inl (h.trans (put_of_ne (by decide) v j))
    · rcases hrx.part r j with h | h
      · exact Or.inl h
      · exact Or.inr (h.trans (put_of_ne hr w j).symm)
  · rw [hrx.done (Bool.eq_false_iff.mpr herr)] at haa
    refine ⟨haa.done, fun r j => ?_⟩
    rcases haa.part r j with h | h
    · by_cases hr : r = 0x01
      · obtain rfl := hr
        exact Or.inl (h.trans (put_of_ne (by decide) v j))
      · exact Or.inr (h.trans (put_of_ne hr w j).symm)
    · exact Or.inr h

theorem updatePipes_partMade (change : Option (UInt8 × UInt8 → UInt8 × UInt8)) :
    PartMade s.dev (s.dev.after (halNrfUpdatePipes bus change))
      (halNrfUpdatePipes b change s).2 := by
  have hrx : Nrf.enRxaddr < Nrf.wRegister := by decide
  have haa : Nrf.enAa < Nrf.wRegister := by decide
  have hdev := readReg_dev hb s hrx
  have hdev' := readReg_dev hb (halNrfReadReg b Nrf.enRxaddr s).2 haa
  rw [after, halNrfUpdatePipes_bus, halNrfUpdatePipes, nrfM_bind, chkSpiErr]
  split_ifs with herr
  · exact partMade_self herr hdev
  rw [nrfM_bind, chkSpiErr]
  split_ifs with herr'
  · exact partMade_self herr' (hdev'.trans hdev)
  rcases change with _ | f
  · exact partMade_of_eq (hdev'.trans hdev)
  · rw [readReg_eq hb _ haa (Bool.eq_false_iff.mpr herr'),
      readReg_eq hb s hrx (Bool.eq_false_iff.mpr herr), hdev]
    have hset := fun v w => setPipes_partMade hb
      (halNrfReadReg b Nrf.enAa (halNrfReadReg b Nrf.enRxaddr s).2).2 v w
    rw [hdev', hdev] at hset
    exact hset _ _

/-- **Checked calls.** A setter that checks its reads does what it should, or part of it. -/
theorem exec_partMade {c : NrfSetter} (hc : c.uncheckedReads = []) :
    PartMade s.dev (c.apply s.dev) (c.exec b s).2 := by
  have hset : ∀ {reg : UInt8} (v : UInt8), reg < Nrf.wRegister →
      PartMade s.dev (s.dev.after (halNrfSetReg bus reg v)) (halNrfSetReg b reg v s).2 := by
    intro reg v h
    rw [apply_set h]
    exact setReg_partMade hb s h v
  have hupdate : ∀ {reg : UInt8} (f : UInt8 → UInt8), reg < Nrf.wRegister →
      PartMade s.dev (s.dev.after (halNrfUpdateReg bus reg f)) (halNrfUpdateReg b reg f s).2 := by
    intro reg f h
    rw [apply_update h]
    exact updateReg_partMade hb s h f
  cases c with
  | operationMode | powerMode | crcMode | irqMode => exact hupdate _ (by decide)
  | dynamicPayload | ackPayload | dynamicAck => exact hupdate _ (by decide)
  | datarate | pllMode | continuousWave => exact hupdate _ (by decide)
  | setupDynamicPayload | rfChannel | autoRetr | addressWidth => exact hset _ (by decide)
  | rxPayloadWidth pipeNum => exact hset _ (widthReg_lt pipeNum)
  | openPipe | closePipe => exact updatePipes_partMade hb s _
  | outputPower => exact absurd hc (List.cons_ne_nil 0 [])
  | address pipeNum addr =>
    rcases hp : pipeNum.multibyte with _ | _
    · cases pipeNum with
      | pipe p =>
        have hreg : ∀ p : Fin 6, Nrf.rxAddrP0 + HalNrfAddress.code (.pipe p) < Nrf.wRegister := by
          decide
        have hlt : ¬ p < 2 := of_decide_eq_false hp
        rw [NrfSetter.apply, NrfSetter.exec, NrfSetter.exec, halNrfSetAddress, halNrfSetAddress,
          if_neg hlt, if_neg hlt]
        exact hset (addr 0) (hreg p)
      | tx => exact Bool.noConfusion hp
      | all => exact ⟨fun _ => rfl, fun _ _ => Or.inl rfl⟩
    · rw [NrfSetter.uncheckedReads, if_pos hp] at hc
      exact absurd hc (List.cons_ne_nil 0 [])

/-- `hal_nrf_set_output_power` makes of `RF_SETUP` what it should of the old value, or of what its
read left, which failed. -/
theorem outputPower_partMade (power : HalNrfOutputPower) :
    ∃ v, (v = s.dev 0x06 0 ∨ b.fails s.n = true ∧ v = b.garbage s.n 1 ∧
        s.n < (halNrfSetOutputPower b power s).2.n) ∧
      PartMade s.dev (s.dev.put 0x06 (powerBits power v)) (halNrfSetOutputPower b power s).2 := by
  have hreg : Nrf.rfSetup < Nrf.wRegister := by decide
  have hdev := readReg_dev hb s hreg
  have hset := fun v => setReg_partMade hb (halNrfReadReg b Nrf.rfSetup s).2 hreg v
  rw [hdev] at hset
  rcases ho : b.opened with _ | _
  · -- there is no handle, and nothing is written
    refine ⟨s.dev 0x06 0, Or.inl rfl, partMade_self ?_ ?_⟩
    · exact congrArg (fun r : (ℕ → UInt8) × NrfSt RegFile => r.2.ecomm) (nrfTransmit_closed ho _)
    · rw [halNrfSetOutputPower, nrfM_bind, halNrfSetReg, nrfM_bind, halNrfWriteReg, nrfM_bind,
        nrfTransmit_closed ho]
      exact hdev
  · refine ⟨(halNrfReadReg b Nrf.rfSetup s).1, ?_, hset _⟩
    rcases hf : b.fails s.n with _ | _
    · refine Or.inl (readReg_eq hb s hreg ?_)
      exact congrArg (fun r : (ℕ → UInt8) × NrfSt RegFile => r.2.ecomm) (nrfTransmit_ok ho hf _)
    · have hread := nrfTransmit_fails ho hf [Nrf.rfSetup, 0]
      refine Or.inr ⟨rfl, congrArg (fun r : (ℕ → UInt8) × NrfSt RegFile => r.1 1) hread, ?_⟩
      have hn : (halNrfReadReg b Nrf.rfSetup s).2.n = s.n + 1 :=
        congrArg (fun r : (ℕ → UInt8) × NrfSt RegFile => r.2.n) hread
      refine (Nat.lt_succ_self s.n).trans_le (hn.symm.le.trans ?_)
      exact transmit_n_le b _ _

end Failing

/-! ### Fields -/

/-- The registers hold a value of a field. -/
def NrfField.Holds (f : NrfField) (v : ℕ) (s : NrfSt RegFile) : Prop := f.held s.dev = v

/-- The bits of a field are in one byte. -/
def NrfField.InByte (f : NrfField) (r j : ℕ) : Prop :=
  ∀ r' j' i, fieldAt r' j' i = some f → r' = r ∧ j' = j

/-- The extra features, the fields of `FEATURE`. -/
def NrfField.IsFeature : NrfField → Prop
  | dynamicPayload | ackPayload | dynamicAck => True
  | _ => False

/-- A field in one of the registers of the bit map. -/
theorem inByte_of_fieldOfBit {f : NrfField} {r : ℕ} (haddress : ∀ p j, f ≠ .pipeAddress p j)
    (htx : ∀ j, f ≠ .txAddress j) (hwidth : ∀ p, f ≠ .rxPayloadWidth p)
    (hpipe : ∀ p, f ≠ .pipeStatus p) (hreg : ∀ r' i, fieldOfBit r' i = some f → r' = r) :
    f.InByte r 0 := by
  intro r' j i hf
  rw [fieldAt] at hf
  split_ifs at hf with _ _ hj _ _ _
  · exact absurd (Option.some.inj hf).symm (haddress _ _)
  · exact absurd (Option.some.inj hf).symm (htx _)
  · exact absurd (Option.some.inj hf).symm (hwidth _)
  · exact absurd (Option.some.inj hf).symm (hpipe _)
  · exact ⟨hreg r' i hf, not_not.mp hj⟩

theorem datarate_inByte : NrfField.datarate.InByte 0x06 0 := by
  refine inByte_of_fieldOfBit nofun nofun nofun nofun fun r i h => ?_
  unfold fieldOfBit at h
  split at h <;> first | rfl | exact nomatch h

theorem feature_inByte {f : NrfField} (hf : f.IsFeature) : f.InByte 0x1d 0 := by
  cases f with
  | dynamicPayload | ackPayload | dynamicAck =>
    refine inByte_of_fieldOfBit nofun nofun nofun nofun fun r i h => ?_
    unfold fieldOfBit at h
    split at h <;> first | rfl | exact nomatch h
  | _ => exact hf.elim

section Fields

variable {b : NrfBus RegFile} {c : NrfSetter} {f : NrfField}

/-- A field that the call would not change. -/
theorem PartMade.held_eq {d d' : RegFile} {s : NrfSt RegFile} (h : PartMade d d' s)
    (hframe : ∀ r j i, fieldAt r j i = some f → hasBit (d' r j) i = hasBit (d r j) i) :
    f.held s.dev = f.held d := by
  refine held_congr fun r j i hf => ?_
  rcases h.part r j with hpart | hpart
  · rw [hpart]
  · rw [hpart]
    exact hframe r j i hf

/-- A field in one byte is what it was, or what it should be. -/
theorem PartMade.held_or {d d' : RegFile} {s : NrfSt RegFile} (h : PartMade d d' s) {r j : ℕ}
    (hbyte : f.InByte r j) : f.held s.dev = f.held d ∨ f.held s.dev = f.held d' := by
  have hcongr : ∀ d : RegFile, s.dev r j = d r j → f.held s.dev = f.held d := by
    intro d hd
    refine held_congr fun r' j' i hf => ?_
    obtain ⟨rfl, rfl⟩ := hbyte r' j' i hf
    rw [hd]
  exact (h.part r j).imp (hcongr d) (hcongr d')

variable (hb : b.answer = answer) (hc : c.uncheckedReads = [])

include hb hc

/-- A field that the call does not set stays, whatever transfers fail. -/
theorem held_exec_of_frames (hframes : ∀ d, Frames c d) (hnone : ∀ d, c.value d f = none)
    (s : NrfSt RegFile) : f.held (c.exec b s).2.dev = f.held s.dev :=
  (exec_partMade hb s hc).held_eq fun r j i hf => hframes s.dev r j i f hf (hnone s.dev)

/-- A field that the call sets is set, if there is no error. -/
theorem held_exec_of_value (hr : c.InRange) {v : ℕ} (hv : ∀ d, c.value d f = some v)
    (s : NrfSt RegFile) (hok : (c.exec b s).2.ecomm = false) :
    f.held (c.exec b s).2.dev = f.told v := by
  rw [(exec_partMade hb s hc).done hok, held_apply hr (hv s.dev)]

/-- A field in one byte that the call sets to the value that it has. -/
theorem keeps_of_value (hr : c.InRange) {v : ℕ} (hv : ∀ d, c.value d f = some v) {r j : ℕ}
    (hbyte : f.InByte r j) : Keeps (f.Holds (f.told v)) (c.exec b) := by
  intro s hs
  rcases (exec_partMade hb s hc).held_or hbyte with h | h
  · exact h.trans hs
  · exact h.trans (held_apply hr (hv s.dev))

end Fields

/-- The data rate that a failed read left in the buffer, of the transfers from `lo` on and before
`hi`. -/
def LeftRate (b : NrfBus RegFile) (lo hi rate : ℕ) : Prop :=
  ∃ i, lo ≤ i ∧ i < hi ∧ b.fails i = true ∧
    rate = NrfField.datarate.held fun _ _ => b.garbage i 1

/-- The data rate is 1 Mbps, or what a read has left that failed since transfer `lo`. -/
structure Rated (b : NrfBus RegFile) (lo : ℕ) (s : NrfSt RegFile) : Prop where
  le : lo ≤ s.n
  rate : NrfField.datarate.held s.dev = HalNrfDatarate.mbps1.code ∨
    LeftRate b lo s.n (NrfField.datarate.held s.dev)

/-- The data rate stays. -/
theorem Rated.of_held_eq {b : NrfBus RegFile} {lo : ℕ} {s s' : NrfSt RegFile} (h : Rated b lo s)
    (hn : s.n ≤ s'.n) (hheld : NrfField.datarate.held s'.dev = NrfField.datarate.held s.dev) :
    Rated b lo s' := by
  refine ⟨h.le.trans hn, ?_⟩
  rw [hheld]
  exact h.rate.imp_right fun ⟨i, hle, hlt, hi⟩ => ⟨i, hle, hlt.trans_le hn, hi⟩

section OutputPower

variable {b : NrfBus RegFile} (hb : b.answer = answer) (power : HalNrfOutputPower)

include hb

/-- `hal_nrf_set_output_power` leaves the fields that are not in `RF_SETUP`. -/
theorem outputPower_keeps {f : NrfField} {v : ℕ} (hf : ∀ i, fieldAt 0x06 0 i ≠ some f) :
    Keeps (f.Holds v) (halNrfSetOutputPower b power) := by
  intro s hs
  obtain ⟨w, -, hpart⟩ := outputPower_partMade hb s power
  refine (hpart.held_eq fun r j i hown => ?_).trans hs
  rw [put, if_neg]
  rintro ⟨rfl, rfl⟩
  exact hf i hown

/-- The data rate stays, or is what the failed read left. -/
theorem outputPower_keeps_rated {lo : ℕ} : Keeps (Rated b lo) (halNrfSetOutputPower b power) := by
  intro s hs
  have hn : s.n ≤ (halNrfSetOutputPower b power s).2.n := exec_n_le b (.outputPower power) s
  obtain ⟨v, hv, hpart⟩ := outputPower_partMade hb s power
  have hput : NrfField.datarate.held (s.dev.put 0x06 (powerBits power v)) =
      NrfField.datarate.held fun _ _ => v := by
    refine held_congr fun r j i hown => ?_
    obtain ⟨rfl, rfl⟩ := datarate_inByte r j i hown
    rw [put_self]
    have hbits : ∀ i : Fin 8, fieldAt 0x06 0 i = some .datarate →
        (i : ℕ) ≠ 1 ∧ (i : ℕ) ≠ 2 := by decide
    exact hasBit_powerBits power v (hbits i hown).1 (hbits i hown).2
  rcases hpart.held_or datarate_inByte with h | h
  · exact hs.of_held_eq hn h
  · rcases hv with rfl | ⟨hfails, rfl, hlt⟩
    · refine hs.of_held_eq hn (h.trans (hput.trans (held_congr fun r j i hown => ?_)))
      obtain ⟨rfl, rfl⟩ := datarate_inByte r j i hown
      rfl
    · exact ⟨hs.le.trans hn, Or.inr ⟨s.n, hs.le, hlt, hfails, h.trans hput⟩⟩

end OutputPower

/-! ### Sequences -/

section Steps

variable {δ : Type} {b : NrfBus δ} {U V : NrfSt δ → Prop}

theorem nrfSteps_checked (c : NrfSetter) (sts : List NrfStep) (s : NrfSt δ) :
    nrfSteps b (⟨c, true⟩ :: sts) s =
      if (c.exec b s).2.ecomm then (false, (c.exec b s).2) else nrfSteps b sts (c.exec b s).2 :=
  rfl

theorem nrfSteps_unchecked (c : NrfSetter) (sts : List NrfStep) (s : NrfSt δ) :
    nrfSteps b (⟨c, false⟩ :: sts) s = nrfSteps b sts (c.exec b s).2 := rfl

/-- A set-up keeps what each of its calls keeps, also where it gives up. -/
theorem keeps_nrfSteps {sts : List NrfStep} (h : ∀ st ∈ sts, Keeps V (st.call.exec b)) :
    Keeps V (nrfSteps b sts) := by
  induction sts with
  | nil => exact keeps_pure true
  | cons st sts ih =>
    intro s hs
    have hcall : V (st.call.exec b s).2 := h st List.mem_cons_self s hs
    have hrest := ih (fun st hst => h st (List.mem_cons_of_mem _ hst)) _ hcall
    obtain ⟨c, _ | _⟩ := st
    · rw [nrfSteps_unchecked]
      exact hrest
    · rw [nrfSteps_checked]
      split_ifs
      · exact hcall
      · exact hrest

/-- **Set-ups.** A call in `NRF_EXEC` brings about what the calls after it keep. If the set-up
gets to its end, this is so, whatever transfers failed: the call in `NRF_EXEC` left no error,
and those after it keep the field whatever becomes of them. -/
theorem steps_set {pre post : List NrfStep} {c : NrfSetter}
    (hpre : ∀ st ∈ pre, Keeps U (st.call.exec b))
    (hc : ∀ s, U s → (c.exec b s).2.ecomm = false → V (c.exec b s).2)
    (hpost : ∀ st ∈ post, Keeps V (st.call.exec b)) {s : NrfSt δ} (hs : U s)
    (hret : (nrfSteps b (pre ++ ⟨c, true⟩ :: post) s).1 = true) :
    V (nrfSteps b (pre ++ ⟨c, true⟩ :: post) s).2 := by
  induction pre generalizing s with
  | nil =>
    rw [List.nil_append, nrfSteps_checked] at hret ⊢
    split_ifs at hret ⊢ with herr
    exact keeps_nrfSteps hpost _ (hc s hs (Bool.eq_false_iff.mpr herr))
  | cons st pre ih =>
    have hcall : U (st.call.exec b s).2 := hpre st List.mem_cons_self s hs
    have hrest := ih (fun st hst => hpre st (List.mem_cons_of_mem _ hst)) hcall
    obtain ⟨c', _ | _⟩ := st
    · rw [List.cons_append, nrfSteps_unchecked] at hret ⊢
      exact hrest hret
    · rw [List.cons_append, nrfSteps_checked] at hret ⊢
      split_ifs at hret ⊢
      exact hrest hret

end Steps

end Librasp
