import Librasp.Devices.NrfReceive
import Librasp.Devices.NrfKeeps
import Librasp.Foundation.Run

/-!
# The interrupts of the nRF24L01+

An interrupt may be raised before any transfer. `hal_nrf_get_clear_irq_flags` clears the flags by
the transfer that tells them, so that none gets lost between a look and a clear, and one that is
not told (because the transfer failed) is not cleared.

Whatever else is called in between, each interrupt raised is told just once or still flagged, as
long as no call discards one (`irq_settled_iff`): `hal_nrf_clear_irq_flag` discards the flag that
it clears, and `hal_nrf_clear_irq_flags_get_status` the flags it told if its second transfer
fails.

* The device counts how often each interrupt was raised; less the one that is flagged, that is how
  many were taken (`Radio.taken`). Nothing but a write of `STATUS` takes any (`taken_next`).
* `NrfIoCall` are the calls of the whole layer. What a call takes it tells or discards
  (`NrfIoCall.taken_exec`); for most of them this is nothing, by the rules of `NrfKeeps`.
* `NrfIoCall.discards` is the condition, on a call and the state it is made in.

**Main result.** `irq_settled_iff`, in both directions, over all runs and patterns of failing
transfers.
-/

namespace Librasp

/-! ### The calls -/

/-- A call of the layer. -/
inductive NrfIoCall
  | getIrqFlags
  | getClearIrqFlags
  | clearIrqFlagsGetStatus
  | clearIrqFlag (intSource : HalNrfIrqSource)
  /-- The calls that set or configure. -/
  | config (c : NrfCall)
  /-- `hal_nrf_read_reg`, and the getters of a single register. -/
  | readReg (reg : UInt8)
  | getPipeStatus (pipeNum : HalNrfAddress)
  | getAddress (pipeNum : HalNrfAddress)
  | getTxFifoStatus
  | txFifoEmpty
  | txFifoFull
  | getRxFifoStatus
  | rxFifoEmpty
  | rxFifoFull
  | getFifoStatus
  | getAutoRetrStatus
  | getTransmitAttempts
  | getPacketLostCtr
  | getCarrierDetect
  | getReuseTxStatus
  | getRxDataSource
  | readRxPayloadWidth
  | readRxPayload
  | writeTxPayload (txPload : ℕ → UInt8) (length : UInt8)
  | writeTxPayloadNoack (txPload : ℕ → UInt8) (length : UInt8)
  | writeAckPayload (pipeNum : HalNrfAddress) (txPload : ℕ → UInt8) (length : UInt8)
  | reuseTx
  | flushRx
  | flushTx
  | nop

/-- What a call does. The calls that clear flags and tell them return them. -/
def NrfIoCall.exec {δ : Type} (b : NrfBus δ) : NrfIoCall → NrfM δ (Option UInt8)
  | getIrqFlags => do let _ ← halNrfGetIrqFlags b; return none
  | getClearIrqFlags => do return some (← halNrfGetClearIrqFlags b)
  | clearIrqFlagsGetStatus => do return some (← halNrfClearIrqFlagsGetStatus b)
  | clearIrqFlag intSource => do halNrfClearIrqFlag b intSource; return none
  | config c => do c.exec b; return none
  | readReg reg => do let _ ← halNrfReadReg b reg; return none
  | getPipeStatus pipeNum => do let _ ← halNrfGetPipeStatus b pipeNum; return none
  | getAddress pipeNum => do let _ ← halNrfGetAddress b pipeNum; return none
  | getTxFifoStatus => do let _ ← halNrfGetTxFifoStatus b; return none
  | txFifoEmpty => do let _ ← halNrfTxFifoEmpty b; return none
  | txFifoFull => do let _ ← halNrfTxFifoFull b; return none
  | getRxFifoStatus => do let _ ← halNrfGetRxFifoStatus b; return none
  | rxFifoEmpty => do let _ ← halNrfRxFifoEmpty b; return none
  | rxFifoFull => do let _ ← halNrfRxFifoFull b; return none
  | getFifoStatus => do let _ ← halNrfGetFifoStatus b; return none
  | getAutoRetrStatus => do let _ ← halNrfGetAutoRetrStatus b; return none
  | getTransmitAttempts => do let _ ← halNrfGetTransmitAttempts b; return none
  | getPacketLostCtr => do let _ ← halNrfGetPacketLostCtr b; return none
  | getCarrierDetect => do let _ ← halNrfGetCarrierDetect b; return none
  | getReuseTxStatus => do let _ ← halNrfGetReuseTxStatus b; return none
  | getRxDataSource => do let _ ← halNrfGetRxDataSource b; return none
  | readRxPayloadWidth => do let _ ← halNrfReadRxPayloadWidth b; return none
  | readRxPayload => do let _ ← halNrfReadRxPayload b; return none
  | writeTxPayload txPload length => do halNrfWriteTxPayload b txPload length; return none
  | writeTxPayloadNoack txPload length => do
    halNrfWriteTxPayloadNoack b txPload length
    return none
  | writeAckPayload pipeNum txPload length => do
    halNrfWriteAckPayload b pipeNum txPload length
    return none
  | reuseTx => do halNrfReuseTx b; return none
  | flushRx => do halNrfFlushRx b; return none
  | flushTx => do halNrfFlushTx b; return none
  | nop => do let _ ← halNrfNop b; return none

/-- The interrupts a call clears without telling: those flagged, if a transfer clears them of which
the caller is told nothing, or an error. -/
def NrfIoCall.discards (b : NrfBus Link) (s : NrfSt Link) : NrfIoCall → HalNrfIrqSource → Bool
  | clearIrqFlag intSource => fun i => !b.fails s.n && s.dev.now.irq i && i = intSource
  | clearIrqFlagsGetStatus => fun i => !b.fails s.n && b.fails (s.n + 1) && s.dev.now.irq i
  | _ => fun _ => false

/-- The state between the calls, with the interrupts told so far. -/
structure NrfIoSt where
  st : NrfSt Link
  told : HalNrfIrqSource → ℕ

/-- A call tells of an interrupt. -/
def irqTold (r : Option UInt8 × NrfSt Link) (i : HalNrfIrqSource) : Bool :=
  !r.2.ecomm && r.1.any fun flags => hasBit flags i.maskBit

/-- A call. -/
def nrfIoStep (b : NrfBus Link) (s : NrfIoSt) (c : NrfIoCall) : Option NrfIoSt :=
  let r := c.exec b s.st
  some ⟨r.2, fun i => s.told i + (irqTold r i).toNat⟩

/-- Each interrupt raised was told once, or is flagged. -/
def NrfIoSt.Settled (s : NrfIoSt) : Prop :=
  ∀ i, s.told i + (s.st.dev.radio.irq i).toNat = s.st.dev.radio.raised i

/-! ### The interrupts taken -/

namespace Radio

/-- How often an interrupt was raised, less the one that is flagged. -/
def taken (r : Radio) (i : HalNrfIrqSource) : ℤ := r.raised i - (r.irq i).toNat

theorem taken_assert (r : Radio) (i : HalNrfIrqSource) : (r.assert i).taken = r.taken := by
  funext j
  by_cases hj : j = i
  · subst hj
    rw [taken, taken, irq_assert_self, raised_assert_self]
    cases r.irq j
    · simp only [Bool.not_false, Bool.toNat_true, Bool.toNat_false]
      omega
    · rfl
  · rw [taken, taken, irq_assert_of_ne r hj, raised_assert_of_ne r hj]

theorem taken_event (r : Radio) (e : RadioEvent) : (r.event e).taken = r.taken := by
  cases e with
  | receive p =>
    rw [event]
    split_ifs
    · exact taken_assert ..
    · rfl
  | ack =>
    rw [event]
    split
    · rfl
    · exact taken_assert ..
  | giveUp =>
    rw [event]
    split
    · rfl
    · exact taken_assert ..

theorem taken_events (r : Radio) (es : List RadioEvent) : (es.foldl event r).taken = r.taken := by
  induction es generalizing r with
  | nil => rfl
  | cons e es ih => rw [List.foldl_cons, ih, taken_event]

/-- Flags that are cleared are taken. -/
theorem taken_clear (r : Radio) (v : UInt8) (i : HalNrfIrqSource) :
    (r.clear v).taken i = r.taken i + (r.irq i && hasBit v i.maskBit).toNat := by
  have h : ∀ x y : Bool, ((x && !y).toNat : ℤ) = x.toNat - (x && y).toNat := by decide
  show (r.raised i : ℤ) - (r.irq i && !hasBit v i.maskBit).toNat = _
  rw [h, taken]
  omega

/-- Only a write of `STATUS` takes flags. -/
theorem taken_next (r : Radio) (data : List UInt8) {cmd : NrfCmd} (h : cmd ≠ .writeStatus) :
    (r.next data cmd).taken = r.taken := by
  cases cmd with
  | writeStatus => exact absurd rfl h
  | txPayload =>
    rw [next, queue]
    split_ifs <;> rfl
  | _ => rfl

end Radio

theorem ite_ne_of {α : Type} {p : Prop} [Decidable p] {x y z : α} (hx : x ≠ z) (hy : y ≠ z) :
    (if p then x else y) ≠ z := by
  by_cases hp : p
  · rwa [if_pos hp]
  · rwa [if_neg hp]

theorem decode_ne_writeStatus {cmd : UInt8} (h : cmd ≠ Nrf.wRegister + Nrf.status) :
    NrfCmd.decode cmd ≠ .writeStatus := by
  unfold NrfCmd.decode
  rw [if_neg h]
  repeat' first
    | exact NrfCmd.noConfusion
    | apply ite_ne_of

section Link

variable (fails : ℕ → Bool) (garbage : ℕ → ℕ → UInt8) (uninit : UInt8)

/-- The interrupts taken from a device. -/
def Link.taken (l : Link) : HalNrfIrqSource → ℤ := l.radio.taken

theorem Link.taken_now (l : Link) : l.now.taken = l.taken := Radio.taken_events ..

variable {t : HalNrfIrqSource → ℤ}

theorem keepsTaken_cmd {cmd : UInt8} (h : cmd ≠ Nrf.wRegister + Nrf.status) (data : List UInt8) :
    Keeps (fun s => s.dev.taken = t) (nrfTransmit (Link.bus fails garbage uninit) (cmd :: data)) :=
  keeps_transmit (P := fun l : Link => l.taken = t) fun l hl =>
    ((Radio.taken_next _ _ (decode_ne_writeStatus h)).trans l.taken_now).trans hl

theorem keptByRegs_taken : KeptByRegs (Link.bus fails garbage uninit) fun s => s.dev.taken = t :=
  fun _ data hcmd => keepsTaken_cmd fails garbage uninit hcmd.2 data

/-- Any register is read. -/
theorem keepsTaken_readReg (reg : UInt8) :
    Keeps (fun s => s.dev.taken = t) (halNrfReadReg (Link.bus fails garbage uninit) reg) := by
  refine (keeps_transmit (P := fun l : Link => l.taken = t) fun l hl => ?_).map _
  rcases eq_or_ne (NrfCmd.decode reg) .writeStatus with h | h
  · -- a write of 0
    funext i
    have hbit : hasBit 0 i.maskBit = false := by cases i <;> decide
    show (l.now.next [0] (NrfCmd.decode reg)).taken i = _
    rw [h, Radio.next, List.headD_cons, Radio.taken_clear, hbit, Bool.and_false, l.taken_now, hl]
    exact add_zero _
  · exact ((Radio.taken_next _ _ h).trans l.taken_now).trans hl

/-! ### The calls that clear -/

variable {s : NrfSt Link}

theorem writeStatus_link (h : fails s.n = false) (v : UInt8) :
    halNrfWriteReg (Link.bus fails garbage uninit) Nrf.status v s = (s.dev.now.status,
      ⟨s.dev.later (s.dev.now.clear v), s.n + 1, false,
        s.sent ++ [[Nrf.wRegister + Nrf.status, v]]⟩) := by
  show ((nrfTransmit (Link.bus fails garbage uninit) [Nrf.wRegister + Nrf.status, v] s).1 0,
    (nrfTransmit (Link.bus fails garbage uninit) [Nrf.wRegister + Nrf.status, v] s).2) = _
  rw [nrfTransmit_ok rfl h]
  rfl

theorem writeReg_fails (h : fails s.n = true) (reg v : UInt8) :
    halNrfWriteReg (Link.bus fails garbage uninit) reg v s = (garbage s.n 0,
      { s with n := s.n + 1, ecomm := true }) := by
  show ((nrfTransmit (Link.bus fails garbage uninit) [Nrf.wRegister + reg, v] s).1 0,
    (nrfTransmit (Link.bus fails garbage uninit) [Nrf.wRegister + reg, v] s).2) = _
  rw [nrfTransmit_fails rfl h]
  rfl

theorem readReg_ecomm (reg : UInt8) :
    (halNrfReadReg (Link.bus fails garbage uninit) reg s).2.ecomm = fails s.n := by
  show (nrfTransmit (Link.bus fails garbage uninit) [reg, 0] s).2.ecomm = _
  rcases h : fails s.n with _ | _
  · rw [nrfTransmit_ok rfl h]
  · rw [nrfTransmit_fails rfl h]

/-- The bit of an interrupt is one of the mask. -/
theorem hasBit_irqMask (v : UInt8) (i : HalNrfIrqSource) :
    hasBit (v &&& Nrf.irqMask) i.maskBit = hasBit v i.maskBit ∧
      hasBit (v &&& ~~~Nrf.irqMask) i.maskBit = false := by
  obtain ⟨k, hk, hmask⟩ : ∃ k : Fin 8, i.maskBit = k ∧ hasBit Nrf.irqMask k = true := by
    cases i with
    | maxRt => exact ⟨4, rfl, by decide⟩
    | txDs => exact ⟨5, rfl, by decide⟩
    | rxDr => exact ⟨6, rfl, by decide⟩
  rw [hk, hasBit_and, hasBit_and, hasBit_not, hmask]
  exact ⟨Bool.and_true _, Bool.and_false _⟩

theorem hasBit_or_irqMask (v w : UInt8) (i : HalNrfIrqSource) :
    hasBit ((v &&& Nrf.irqMask) ||| (w &&& ~~~Nrf.irqMask)) i.maskBit = hasBit v i.maskBit := by
  obtain ⟨k, hk⟩ : ∃ k : Fin 8, i.maskBit = k := by
    cases i with
    | maxRt => exact ⟨4, rfl⟩
    | txDs => exact ⟨5, rfl⟩
    | rxDr => exact ⟨6, rfl⟩
  obtain ⟨hv, -⟩ := hasBit_irqMask v i
  obtain ⟨-, hw⟩ := hasBit_irqMask w i
  rw [hk] at hv hw ⊢
  rw [hasBit_or, hv, hw, Bool.or_false]

/-- What a transfer that clears flags takes. -/
theorem taken_writeStatus (l : Link) (v : UInt8) (i : HalNrfIrqSource) :
    (l.later (l.now.clear v)).taken i =
      l.taken i + (l.now.irq i && hasBit v i.maskBit).toNat := by
  rw [← l.taken_now]
  exact Radio.taken_clear ..

/-- The flags told are the flags of the device. -/
theorem hasBit_status (l : Link) (i : HalNrfIrqSource) :
    hasBit l.now.status i.maskBit = l.now.irq i := by
  rw [← (hasBit_irqMask _ i).1, Radio.status_and_irqMask, Radio.hasBit_irqBits]

theorem taken_getClearIrqFlags (s : NrfSt Link) (i : HalNrfIrqSource) :
    let r := halNrfGetClearIrqFlags (Link.bus fails garbage uninit) s
    r.2.dev.taken i = s.dev.taken i + (irqTold (some r.1, r.2) i).toNat := by
  intro r
  have hall : hasBit Nrf.irqMask i.maskBit = true := by cases i <;> decide
  have hr : r = (halNrfWriteReg (Link.bus fails garbage uninit) Nrf.status Nrf.irqMask s).map
    (· &&& Nrf.irqMask) id := rfl
  rcases h : fails s.n with _ | _
  · rw [hr, writeStatus_link fails garbage uninit h]
    dsimp only [Prod.map, id, irqTold, Option.any]
    rw [(hasBit_irqMask _ i).1, hasBit_status, taken_writeStatus, hall, Bool.and_true,
      Bool.not_false, Bool.true_and]
  · rw [hr, writeReg_fails fails garbage uninit h]
    exact (add_zero _).symm

theorem taken_clearIrqFlagsGetStatus (s : NrfSt Link) (i : HalNrfIrqSource) :
    let b := Link.bus fails garbage uninit
    let r := halNrfClearIrqFlagsGetStatus b s
    r.2.dev.taken i = s.dev.taken i + (irqTold (some r.1, r.2) i).toNat +
      (NrfIoCall.clearIrqFlagsGetStatus.discards b s i).toNat := by
  intro b r
  have hall : hasBit Nrf.irqMask i.maskBit = true := by cases i <;> decide
  have hr : r =
      let w := halNrfWriteReg b Nrf.status Nrf.irqMask s
      let v := halNrfReadReg b Nrf.status w.2
      if w.2.ecomm then (w.1 &&& Nrf.irqMask, w.2)
      else ((w.1 &&& Nrf.irqMask) ||| (v.1 &&& ~~~Nrf.irqMask), v.2) := rfl
  have hdiscards : NrfIoCall.clearIrqFlagsGetStatus.discards b s i =
    (!fails s.n && fails (s.n + 1) && s.dev.now.irq i) := rfl
  rcases h : fails s.n with _ | _
  · rw [writeStatus_link fails garbage uninit h] at hr
    dsimp only at hr
    rw [if_neg Bool.false_ne_true] at hr
    have htaken : r.2.dev.taken i = s.dev.taken i + (s.dev.now.irq i).toNat := by
      rw [hr, keepsTaken_readReg fails garbage uninit _ _ rfl, taken_writeStatus, hall,
        Bool.and_true]
    have htold : irqTold (some r.1, r.2) i = (!fails (s.n + 1) && s.dev.now.irq i) := by
      rw [hr, irqTold, readReg_ecomm]
      dsimp only [Option.any]
      rw [hasBit_or_irqMask, hasBit_status]
    rw [htaken, htold, hdiscards, h]
    -- the flags were told, or the second transfer failed
    cases fails (s.n + 1) <;> simp
  · rw [writeReg_fails fails garbage uninit h] at hr
    rw [hr, hdiscards, h]
    exact ((add_zero _).trans (add_zero _)).symm

theorem taken_clearIrqFlag (s : NrfSt Link) (j i : HalNrfIrqSource) :
    let b := Link.bus fails garbage uninit
    (halNrfClearIrqFlag b j s).2.dev.taken i = s.dev.taken i +
      ((NrfIoCall.clearIrqFlag j).discards b s i).toNat := by
  intro b
  have hr : (halNrfClearIrqFlag b j s).2 = (halNrfWriteReg b Nrf.status (bitMask j.maskBit) s).2 :=
    rfl
  have hdiscards : (NrfIoCall.clearIrqFlag j).discards b s i =
    (!fails s.n && s.dev.now.irq i && i = j) := rfl
  have hbit : hasBit (bitMask j.maskBit) i.maskBit = decide (i = j) := by
    cases i <;> cases j <;> decide
  rw [hr, hdiscards]
  rcases h : fails s.n with _ | _
  · rw [writeStatus_link fails garbage uninit h, taken_writeStatus, hbit, Bool.not_false,
      Bool.true_and]
  · rw [writeReg_fails fails garbage uninit h]
    exact (add_zero _).symm

/-! ### Runs -/

theorem keepsTaken_nop :
    Keeps (fun s => s.dev.taken = t) (halNrfNop (Link.bus fails garbage uninit)) :=
  (keepsTaken_cmd fails garbage uninit (by decide) _).map _

theorem keepsTaken_readRxPayload :
    Keeps (fun s => s.dev.taken = t) (halNrfReadRxPayload (Link.bus fails garbage uninit)) := by
  rw [halNrfReadRxPayload, halNrfReadMultibyteReg, if_neg (by decide), if_pos rfl]
  refine ((keepsTaken_nop fails garbage uninit).map _).bind fun src => ?_
  refine Keeps.chk (keeps_pure _) fun s hs => ?_
  split_ifs
  · exact keeps_readSized (keepsTaken_cmd fails garbage uninit (by decide)) _ _
      (keepsTaken_readReg fails garbage uninit _) s hs
  · exact hs

theorem keepsTaken_writeAckPayload (pipeNum : HalNrfAddress) (txPload : ℕ → UInt8)
    (length : UInt8) : Keeps (fun s => s.dev.taken = t)
      (halNrfWriteAckPayload (Link.bus fails garbage uninit) pipeNum txPload length) := by
  have h : ∀ p : Fin 6, Nrf.wAckPayload ||| HalNrfAddress.code (.pipe p) ≠
      Nrf.wRegister + Nrf.status := by decide
  cases pipeNum with
  | pipe p => exact (keepsTaken_cmd fails garbage uninit (h p) _).map _
  | tx => exact keeps_pure _
  | all => exact keeps_pure _

/-- A call that takes no interrupt tells of none. -/
theorem taken_quiet {α : Type} {m : NrfM Link α} {s : NrfSt Link}
    (h : Keeps (fun s' => s'.dev.taken = s.dev.taken) m) (i : HalNrfIrqSource) :
    let r := (do let _ ← m; return none : NrfM Link (Option UInt8)) s
    r.2.dev.taken i = s.dev.taken i + (irqTold r i).toNat + false.toNat := by
  intro r
  have htold : irqTold r i = false := Bool.and_false _
  rw [htold]
  exact (congrFun (h s rfl) i).trans ((add_zero _).trans (add_zero _)).symm

/-- What a call takes is told, or discarded. The calls that clear no flags take none; for those
that do, it is their transfer that writes `STATUS`. -/
theorem NrfIoCall.taken_exec (c : NrfIoCall) (s : NrfSt Link) (i : HalNrfIrqSource) :
    let b := Link.bus fails garbage uninit
    (c.exec b s).2.dev.taken i = s.dev.taken i + (irqTold (c.exec b s) i).toNat +
      (c.discards b s i).toNat := by
  intro b
  cases c with
  | getClearIrqFlags =>
    exact (taken_getClearIrqFlags fails garbage uninit s i).trans (add_zero _).symm
  | clearIrqFlagsGetStatus => exact taken_clearIrqFlagsGetStatus fails garbage uninit s i
  | clearIrqFlag j =>
    have htold : irqTold ((NrfIoCall.clearIrqFlag j).exec b s) i = false := Bool.and_false _
    rw [htold, Bool.toNat_false, Nat.cast_zero, add_zero]
    exact taken_clearIrqFlag fails garbage uninit s j i
  | config c => exact taken_quiet (config_keeps (keptByRegs_taken fails garbage uninit) c) i
  | getPipeStatus pipeNum =>
    exact taken_quiet (keeps_getPipeStatus (keptByRegs_taken fails garbage uninit) pipeNum) i
  | getAddress pipeNum =>
    exact taken_quiet (keeps_getAddress (keptByRegs_taken fails garbage uninit) pipeNum) i
  | readRxPayload => exact taken_quiet (keepsTaken_readRxPayload fails garbage uninit) i
  | writeAckPayload pipeNum txPload length =>
    exact taken_quiet (keepsTaken_writeAckPayload fails garbage uninit pipeNum _ _) i
  | writeTxPayload | writeTxPayloadNoack | reuseTx | flushRx | flushTx =>
    exact taken_quiet ((keepsTaken_cmd fails garbage uninit (by decide) _).map _) i
  | getIrqFlags | getRxDataSource =>
    exact taken_quiet ((keepsTaken_nop fails garbage uninit).map _) i
  | nop => exact taken_quiet (keepsTaken_nop fails garbage uninit) i
  | readReg | readRxPayloadWidth | getFifoStatus | getAutoRetrStatus =>
    exact taken_quiet (keepsTaken_readReg fails garbage uninit _) i
  | _ => exact taken_quiet ((keepsTaken_readReg fails garbage uninit _).map _) i

theorem NrfIoSt.settled_iff (s : NrfIoSt) :
    s.Settled ↔ ∀ i, (s.told i : ℤ) = s.st.dev.taken i := by
  refine forall_congr' fun i => ?_
  rw [Link.taken, Radio.taken]
  omega

/-- A call leaves what it should, unless it discards: the interrupts told and taken go up by the
same, but for those it discards. -/
theorem settled_step_iff {s : NrfIoSt} (hs : s.Settled) (c : NrfIoCall) :
    let b := Link.bus fails garbage uninit
    (∀ s', nrfIoStep b s c = some s' → s'.Settled) ↔ ∀ i, c.discards b s.st i = false := by
  intro b
  rw [NrfIoSt.settled_iff] at hs
  have hstep : (∀ s', nrfIoStep b s c = some s' → s'.Settled) ↔
      NrfIoSt.Settled ⟨(c.exec b s.st).2, fun i => s.told i + (irqTold (c.exec b s.st) i).toNat⟩ :=
    ⟨fun h => h _ rfl, fun h s' hs' => Option.some.inj hs' ▸ h⟩
  rw [hstep, NrfIoSt.settled_iff]
  refine forall_congr' fun i => ?_
  have htaken : (c.exec b s.st).2.dev.taken i = s.st.dev.taken i +
      (irqTold (c.exec b s.st) i).toNat + (c.discards b s.st i).toNat :=
    c.taken_exec fails garbage uninit s.st i
  dsimp only
  rw [htaken, ← hs i, Nat.cast_add]
  rcases c.discards b s.st i with _ | _
  · exact iff_of_true (add_zero _).symm rfl
  · refine iff_of_false (fun h => ?_) Bool.noConfusion
    rw [Bool.toNat_true] at h
    omega

end Link

/-- **Interrupts.** In a run of calls of the layer, with interrupts raised before whichever
transfers, and any transfers failing, each interrupt raised is at every time told just once or
still flagged, exactly if no call discards one. -/
theorem irq_settled_iff (fails : ℕ → Bool) (garbage : ℕ → ℕ → UInt8) (uninit : UInt8) {s : NrfIoSt}
    (hs : s.Settled) (cs : List NrfIoCall) :
    let b := Link.bus fails garbage uninit
    Run.Each (nrfIoStep b) (fun _ _ s' => s'.Settled) s cs ↔
      Run.Meets (nrfIoStep b) (fun s c => ∀ i, c.discards b s.st i = false) s cs :=
  Run.each_iff_meets (fun _ c hs => (settled_step_iff fails garbage uninit hs c).symm)
    (fun _ c _ hs hok => (settled_step_iff fails garbage uninit hs c).mpr hok _) hs cs

/-- A payload comes before the first of two looks at the interrupts. -/
theorem irq_settled_receive :
    let p : RxPload := ⟨0, [0xab], by decide, by decide⟩
    let r : Radio := ⟨fun _ _ => 0, [], [], fun _ => false, false, none, [], [], fun _ => 0⟩
    Run.Each (nrfIoStep (Link.bus (fun _ => false) (fun _ _ => 0) 0))
      (fun _ _ s' => s'.Settled) ⟨⟨⟨r, [[.receive p]]⟩, 0, false, []⟩, fun _ => 0⟩
      [.getClearIrqFlags, .clearIrqFlagsGetStatus, .flushRx] := by
  refine (irq_settled_iff _ _ _ (fun _ => rfl) _).mpr ?_
  refine ⟨fun _ => rfl, fun s₁ h₁ => ⟨fun _ => ?_, fun _ _ => ⟨fun _ => rfl, fun _ _ => trivial⟩⟩⟩
  cases h₁
  rfl

end Librasp
