import Librasp.Devices.NrfKeeps
import Librasp.Devices.NrfReceive

/-!
# Transmitting

The transmitter of `nrf_tx.c` powers up for each message, sets up, queues the message, clears the
flags, pulses `CE`, and looks up to 20 times whether the transmission ended. A message is said to
be sent if `TX_DS` ended the wait, and `MAX_RT` did not.

What is said to be sent was acknowledged. A message that is not may have been acknowledged all the
same, after the last look; but what was acknowledged are messages of the transmitter, each at most
once and in their order (`txRounds_reports`).

* It is asked that no transfer fails (`Link.good`). What goes on in the air is any finite list of
  events before each of the transfers to come.
* `airOutcomes` is what is to be said of the messages, by the air alone: a round makes 26
  transfers before its pulse, and up to 20 looks behind it, and what ends the transmission first,
  before one of these looks, decides. `Takes` counts the transfers of a program, so that the
  rounds are tied to the air in this way.
* Of the device there is a property for each part of a round: `Idle` between the rounds, `Queued`
  and `Ready` before the pulse, `Flying` while the payload is on the air, and `Landed` or `Lost`
  when it is not anymore. The parts are `Yields` from one to the next.

**Main result.** `txRounds_reports`, over any number of rounds.
-/

namespace Librasp

section Model

variable {δ : Type} (b : NrfBus δ)

/-- `NRF_EXEC`: on, or to `finish`. -/
def nrfExec (cmd : NrfM δ Unit) (next : NrfM δ Bool) : NrfM δ Bool := do
  cmd
  fun s => if s.ecomm then (false, s) else next s

/-- `init_tx`. -/
def initTx : NrfM δ Bool := do
  halNrfFlushRx b
  halNrfFlushTx b
  halNrfEnableDynamicPayload b false
  halNrfEnableAckPayload b false
  halNrfEnableDynamicAck b false
  nrfExec (halNrfSetRfChannel b 20) <|
    nrfExec (halNrfSetDatarate b .mbps1) <|
    nrfExec (halNrfSetCrcMode b .bit16) <|
    nrfExec (halNrfSetOperationMode b .ptx) <|
    nrfExec (halNrfConfigTx b none .dbm0 0 0) (pure true)

/-- The wait for a transmission, of so many looks: the flags that ended it, if any did. -/
def txWait : ℕ → NrfM δ (Option UInt8)
  | 0 => pure none
  | i + 1 => do
    let irqFlg ← halNrfGetClearIrqFlags b
    if hasBit irqFlg HalNrfIrqSource.txDs.maskBit ||
        hasBit irqFlg HalNrfIrqSource.maxRt.maskBit then
      return some irqFlg
    else txWait i

/-- What becomes of a message. -/
inductive TxOutcome
  | sent
  | timeout
  /-- The power could not be turned on, and the loop goes on. -/
  | off
  /-- The setup failed, and the loop ends. -/
  | stop
  deriving DecidableEq

/-- What is said of a transmission, after the wait for it. -/
def txOutcome : Option UInt8 → NrfM δ TxOutcome
  | some irqFlg =>
    if hasBit irqFlg HalNrfIrqSource.maxRt.maskBit then do halNrfFlushTx b; return .timeout
    else return .sent
  | none => do halNrfFlushTx b; return .timeout

/-- A round of the TX loop; `pulse` pulses `CE`. -/
def txRound (pulse : NrfM δ Unit) (tx : ℕ → UInt8) : NrfM δ TxOutcome := do
  halNrfSetPowerMode b .pwrUp
  fun s => if s.ecomm then (.off, s) else
    (do
      if ← initTx b then
        halNrfWriteTxPayload b tx (UInt8.ofNat nrfMaxPl)
        let _ ← halNrfGetClearIrqFlags b
        pulse
        let outcome ← txOutcome b (← txWait b 20)
        halNrfSetPowerMode b .pwrDown
        return outcome
      else return .stop : NrfM δ TxOutcome) s

/-- The TX loop, with the messages of its rounds: what it says of each. -/
def txRounds (pulse : NrfM δ Unit) : List (ℕ → UInt8) → NrfM δ (List TxOutcome)
  | [] => pure []
  | tx :: txs => do
    let outcome ← txRound b pulse tx
    if outcome = .stop then return [outcome]
    else return outcome :: (← txRounds pulse txs)

end Model

/-- `CE` is pulsed. -/
def Link.pulse : NrfM Link Unit := fun s =>
  ((), { s with dev := { s.dev with radio := s.dev.radio.pulse } })

/-- The bytes of a message. -/
def txPload (tx : ℕ → UInt8) : List UInt8 := (List.range nrfMaxPl).map tx

/-! ### The air -/

/-- Whether a transmission ends: it is acknowledged, or given up. -/
def RadioEvent.ends : RadioEvent → Option Bool
  | .receive _ => none
  | .ack => some true
  | .giveUp => some false

/-- What ends a transmission first, before one of so many looks. -/
def airEnded (i : ℕ) (air : List (List RadioEvent)) : Option Bool :=
  (air.take i).flatten.findSome? RadioEvent.ends

/-- What is still to go on in the air after the looks, of which the last is the first that finds the
transmission ended. -/
def airAfter : ℕ → List (List RadioEvent) → List (List RadioEvent)
  | 0, air => air
  | i + 1, air =>
    if ((air.headD []).findSome? RadioEvent.ends).isSome then air.tail else airAfter i air.tail

/-- A round, by what goes on in the air before its transfers. 26 of them come before the pulse of
`CE`, and up to 3 after the looks. -/
def airRound (air : List (List RadioEvent)) : TxOutcome × List (List RadioEvent) :=
  if airEnded 20 (air.drop 26) = some true then (.sent, (airAfter 20 (air.drop 26)).drop 2)
  else (.timeout, (airAfter 20 (air.drop 26)).drop 3)

/-- What is to be said of so many messages, by what goes on in the air. -/
def airOutcomes : ℕ → List (List RadioEvent) → List TxOutcome
  | 0, _ => []
  | n + 1, air => (airRound air).1 :: airOutcomes n (airRound air).2

theorem airEnded_succ (i : ℕ) (air : List (List RadioEvent)) :
    airEnded (i + 1) air =
      ((air.headD []).findSome? RadioEvent.ends).or (airEnded i air.tail) := by
  rcases air with _ | ⟨es, air⟩
  · rw [airEnded, airEnded, List.tail_nil, List.take_nil, List.take_nil]
    rfl
  · rw [airEnded, List.take_succ_cons, List.flatten_cons, List.findSome?_append]
    rfl

namespace Radio

/-- Nothing changed for the transmitter. -/
structure TxSame (r r' : Radio) : Prop where
  onAir : r'.onAir = r.onAir
  acked : r'.acked = r.acked
  txFifo : r'.txFifo = r.txFifo
  txDs : r'.irq .txDs = r.irq .txDs
  maxRt : r'.irq .maxRt = r.irq .maxRt

theorem TxSame.refl (r : Radio) : TxSame r r := ⟨rfl, rfl, rfl, rfl, rfl⟩

/-- A payload comes. -/
theorem txSame_receive (r : Radio) (p : RxPload) : TxSame r (r.event (.receive p)) := by
  rw [event]
  split_ifs
  · exact ⟨rfl, rfl, rfl, irq_assert_of_ne _ HalNrfIrqSource.noConfusion,
      irq_assert_of_ne _ HalNrfIrqSource.noConfusion⟩
  · exact TxSame.refl r

/-- Nothing is on the air. -/
theorem txSame_event {r : Radio} (h : r.onAir = none) (e : RadioEvent) : TxSame r (r.event e) := by
  cases e with
  | receive p => exact txSame_receive r p
  | ack =>
    rw [event, h]
    exact TxSame.refl r
  | giveUp =>
    rw [event, h]
    exact TxSame.refl r

/-- A property that the air keeps. -/
def Steady (P : Radio → Prop) : Prop := ∀ r e, P r → P (r.event e)

theorem Steady.foldl {P : Radio → Prop} (h : Steady P) {r : Radio} (hr : P r)
    (es : List RadioEvent) : P (es.foldl event r) := by
  induction es generalizing r with
  | nil => exact hr
  | cons e es ih => exact ih (h r e hr)

theorem Steady.now {P : Radio → Prop} (h : Steady P) {l : Link} (hl : P l.radio) : P l.now :=
  h.foldl hl _

/-- Nothing is on the air, and so much was acknowledged. -/
structure Idle (acked : List (List UInt8)) (r : Radio) : Prop where
  onAir : r.onAir = none
  acked : r.acked = acked

theorem steady_idle {acked : List (List UInt8)} : Steady (Idle acked) := fun _ e h =>
  have hsame := txSame_event h.onAir e
  ⟨hsame.onAir.trans h.onAir, hsame.acked.trans h.acked⟩

/-- Nothing is on the air, and of what is queued. -/
structure Queued (acked txFifo : List (List UInt8)) (r : Radio) : Prop extends Idle acked r where
  txFifo : r.txFifo = txFifo

theorem steady_queued {acked txFifo : List (List UInt8)} : Steady (Queued acked txFifo) :=
  fun r e h => ⟨steady_idle r e h.toIdle, (txSame_event h.onAir e).txFifo.trans h.txFifo⟩

/-- No flag tells of a transmission. -/
structure Unflagged (r : Radio) : Prop where
  txDs : r.irq .txDs = false
  maxRt : r.irq .maxRt = false

/-- Nothing is on the air, of what is queued, and no flag tells otherwise. -/
structure Ready (acked txFifo : List (List UInt8)) (r : Radio) : Prop
    extends Queued acked txFifo r, Unflagged r

/-- A payload is on the air. -/
structure Flying (acked : List (List UInt8)) (pload : List UInt8) (r : Radio) : Prop
    extends Unflagged r where
  onAir : r.onAir = some pload
  acked : r.acked = acked

/-- A payload was acknowledged, and the flag tells. -/
structure Landed (acked : List (List UInt8)) (pload : List UInt8) (r : Radio) : Prop
    extends Idle (acked ++ [pload]) r where
  txDs : r.irq .txDs = true
  maxRt : r.irq .maxRt = false

/-- A payload was given up, and the flag tells. -/
structure Lost (acked : List (List UInt8)) (r : Radio) : Prop extends Idle acked r where
  maxRt : r.irq .maxRt = true

theorem steady_landed {acked : List (List UInt8)} {pload : List UInt8} :
    Steady (Landed acked pload) := fun r e h =>
  have hsame := txSame_event h.onAir e
  ⟨steady_idle r e h.toIdle, hsame.txDs.trans h.txDs, hsame.maxRt.trans h.maxRt⟩

theorem steady_lost {acked : List (List UInt8)} : Steady (Lost acked) := fun r e h =>
  ⟨steady_idle r e h.toIdle, (txSame_event h.onAir e).maxRt.trans h.maxRt⟩

/-- A payload that was on the air, by what ended its transmission. -/
def Flown (acked : List (List UInt8)) (pload : List UInt8) : Option Bool → Radio → Prop
  | none => Flying acked pload
  | some true => Landed acked pload
  | some false => Lost acked

theorem Flying.event {acked : List (List UInt8)} {pload : List UInt8} {r : Radio}
    (h : Flying acked pload r) (e : RadioEvent) : Flown acked pload e.ends (r.event e) := by
  cases e with
  | receive p =>
    have hsame := txSame_receive r p
    exact ⟨⟨hsame.txDs.trans h.txDs, hsame.maxRt.trans h.maxRt⟩,
      hsame.onAir.trans h.onAir, hsame.acked.trans h.acked⟩
  | ack =>
    rw [Radio.event, h.onAir]
    exact ⟨⟨rfl, congrArg (· ++ [pload]) h.acked⟩, irq_assert_self ..,
      (irq_assert_of_ne _ HalNrfIrqSource.noConfusion).trans h.maxRt⟩
  | giveUp =>
    rw [Radio.event, h.onAir]
    exact ⟨⟨rfl, h.acked⟩, irq_assert_self ..⟩

/-- What ends a transmission first decides. After an acknowledgement or a last retransmission
nothing is on the air, and no event before the next transfer makes a difference. -/
theorem Flying.events {acked : List (List UInt8)} {pload : List UInt8} {r : Radio}
    (h : Flying acked pload r) (es : List RadioEvent) :
    Flown acked pload (es.findSome? RadioEvent.ends) (es.foldl Radio.event r) := by
  induction es generalizing r with
  | nil => exact h
  | cons e es ih =>
    have hevent := h.event e
    rw [List.findSome?_cons, List.foldl_cons]
    rcases hends : e.ends with _ | _ | _ <;> rw [hends] at hevent
    · exact ih hevent
    · exact steady_lost.foldl hevent es
    · exact steady_landed.foldl hevent es

/-- A payload may be on the air, and may have been acknowledged. -/
structure Sent (acked : List (List UInt8)) (pload : List UInt8) (r : Radio) : Prop where
  onAir : r.onAir = none ∨ r.onAir = some pload ∧ r.acked = acked
  acked : r.acked = acked ∨ r.acked = acked ++ [pload]

theorem steady_sent {acked : List (List UInt8)} {pload : List UInt8} :
    Steady (Sent acked pload) := by
  rintro r e ⟨hair | ⟨hair, hacked⟩, h⟩
  · have hsame := txSame_event hair e
    exact ⟨Or.inl (hsame.onAir.trans hair), by rw [hsame.acked]; exact h⟩
  · cases e with
    | receive p =>
      have hsame := txSame_receive r p
      exact ⟨Or.inr ⟨hsame.onAir.trans hair, hsame.acked.trans hacked⟩,
        Or.inl (hsame.acked.trans hacked)⟩
    | ack =>
      rw [event, hair]
      exact ⟨Or.inl rfl, Or.inr (congrArg (· ++ [pload]) hacked)⟩
    | giveUp =>
      rw [event, hair]
      exact ⟨Or.inl rfl, Or.inl hacked⟩

/-- What a look tells of a payload that was on the air. -/
def Looked (acked : List (List UInt8)) (pload : List UInt8) (v : UInt8) :
    Option Bool → Radio → Prop
  | none => fun r => (hasBit v HalNrfIrqSource.txDs.maskBit = false ∧
      hasBit v HalNrfIrqSource.maxRt.maskBit = false) ∧ Flying acked pload r
  | some true => fun r => (hasBit v HalNrfIrqSource.txDs.maskBit = true ∧
      hasBit v HalNrfIrqSource.maxRt.maskBit = false) ∧ Idle (acked ++ [pload]) r
  | some false => fun r => hasBit v HalNrfIrqSource.maxRt.maskBit = true ∧ Idle acked r

theorem Flown.looked {acked : List (List UInt8)} {pload : List UInt8} {ended : Option Bool}
    {r : Radio} (h : Flown acked pload ended r) :
    Looked acked pload r.irqBits ended (r.clear Nrf.irqMask) := by
  rcases ended with _ | _ | _
  · obtain ⟨⟨hds, hrt⟩, hair, hacked⟩ : Flying acked pload r := h
    refine ⟨⟨(hasBit_irqBits ..).trans hds, (hasBit_irqBits ..).trans hrt⟩, ⟨?_, ?_⟩, hair, hacked⟩
    · show (r.irq .txDs && _) = false
      rw [hds, Bool.false_and]
    · show (r.irq .maxRt && _) = false
      rw [hrt, Bool.false_and]
  · have h : Lost acked r := h
    exact ⟨(hasBit_irqBits ..).trans h.maxRt, h.onAir, h.acked⟩
  · have h : Landed acked pload r := h
    exact ⟨⟨(hasBit_irqBits ..).trans h.txDs, (hasBit_irqBits ..).trans h.maxRt⟩, h.onAir, h.acked⟩

/-- What the wait tells of a payload that was on the air. -/
structure Waited (acked : List (List UInt8)) (pload : List UInt8) (ended : Option Bool)
    (flags : Option UInt8) (r : Radio) : Prop where
  sent : Sent acked pload r
  told : (flags.map fun v => !hasBit v HalNrfIrqSource.maxRt.maskBit) = ended
  idle : ended = some true → Idle (acked ++ [pload]) r

/-! ### Registers -/

/-- An access to a register that is not `STATUS`. -/
theorem next_of_isRegCmd {cmd : UInt8} (h : IsRegCmd cmd) (r : Radio) (data : List UInt8) :
    r.next data (NrfCmd.decode cmd) = r ∨
      ∃ reg, r.next data (NrfCmd.decode cmd) = r.writeReg reg data := by
  obtain ⟨hlt, hne⟩ : cmd < 2 * Nrf.wRegister ∧ cmd ≠ Nrf.wRegister + Nrf.status := h
  rw [NrfCmd.decode]
  by_cases h₁ : cmd = Nrf.status
  · rw [if_pos h₁]
    exact Or.inl rfl
  by_cases h₂ : cmd = Nrf.fifoStatus
  · rw [if_neg h₁, if_pos h₂]
    exact Or.inl rfl
  by_cases h₃ : cmd < Nrf.wRegister
  · rw [if_neg h₁, if_neg h₂, if_pos h₃]
    exact Or.inl rfl
  rw [if_neg h₁, if_neg h₂, if_neg h₃, if_neg hne]
  by_cases h₄ : cmd = Nrf.wRegister + Nrf.observeTx ∨ cmd = Nrf.wRegister + Nrf.cd ∨
    cmd = Nrf.wRegister + Nrf.fifoStatus
  · rw [if_pos h₄]
    exact Or.inl rfl
  · rw [if_neg h₄, if_pos hlt]
    exact Or.inr ⟨_, rfl⟩

theorem onAir_writeReg (r : Radio) (reg : ℕ) (data : List UInt8) :
    (r.writeReg reg data).onAir = none ∨ (r.writeReg reg data).onAir = r.onAir := by
  rw [writeReg]
  dsimp only
  split_ifs
  · exact Or.inr rfl
  · exact Or.inl rfl

theorem Idle.writeReg {acked : List (List UInt8)} {r : Radio} (h : Idle acked r) (reg : ℕ)
    (data : List UInt8) : Idle acked (r.writeReg reg data) :=
  ⟨(r.onAir_writeReg reg data).elim id fun h' => h'.trans h.onAir, h.acked⟩

theorem Sent.writeReg {acked : List (List UInt8)} {pload : List UInt8} {r : Radio}
    (h : Sent acked pload r) (reg : ℕ) (data : List UInt8) :
    Sent acked pload (r.writeReg reg data) := by
  refine ⟨?_, h.acked⟩
  rcases r.onAir_writeReg reg data with h' | h'
  · exact Or.inl h'
  · rw [h']
    exact h.onAir

end Radio

/-! ### Transfers -/

/-- No error, and a property of the transceiver. -/
structure Fine (P : Radio → Prop) (s : NrfSt Link) : Prop where
  ecomm : s.ecomm = false
  radio : P s.dev.radio

/-- And what is still to go on in the air. -/
structure FineAt (P : Radio → Prop) (air : List (List RadioEvent)) (s : NrfSt Link) : Prop
    extends Fine P s where
  air : s.dev.air = air

/-- A program makes so many transfers, and none fails. -/
def Takes {α : Type} (k : ℕ) (m : NrfM Link α) : Prop := ∀ s, s.ecomm = false →
  (m s).2.ecomm = false ∧ (m s).2.dev.air = s.dev.air.drop k

section Takes

variable {α β : Type} {k j : ℕ}

theorem takes_pure (a : α) : Takes 0 (pure a : NrfM Link α) := fun _ h => ⟨h, rfl⟩

theorem Takes.bind {m : NrfM Link α} {next : α → NrfM Link β} (hm : Takes k m)
    (hnext : ∀ a, Takes j (next a)) : Takes (k + j) (m >>= next) := fun s h => by
  obtain ⟨he, hair⟩ := hm s h
  obtain ⟨he', hair'⟩ := hnext (m s).1 (m s).2 he
  exact ⟨he', by rw [← List.drop_drop, ← hair]; exact hair'⟩

theorem Takes.chk {next : NrfM Link Unit} (h : Takes k next) : Takes k (chkSpiErr next) :=
  fun s hs => by
    rw [chkSpiErr, if_neg (Bool.eq_false_iff.mp hs)]
    exact h s hs

theorem Takes.exec {cmd : NrfM Link Unit} {next : NrfM Link Bool} (hcmd : Takes k cmd)
    (hnext : Takes j next) : Takes (k + j) (nrfExec cmd next) :=
  hcmd.bind fun _ s hs => by
    rw [if_neg (Bool.eq_false_iff.mp hs)]
    exact hnext s hs

/-- What a program makes of the transceiver, and how far the air goes on. -/
theorem Yields.fineAt {P : Radio → Prop} {m : NrfM Link α} {Q : α → Radio → Prop}
    (h : Yields (Fine P) m fun a => Fine (Q a)) (hm : Takes k m) (air : List (List RadioEvent)) :
    Yields (FineAt P air) m fun a => FineAt (Q a) (air.drop k) := fun s hs =>
  ⟨h s hs.toFine, by rw [← hs.air]; exact (hm s hs.ecomm).2⟩

variable (garbage : ℕ → ℕ → UInt8) (uninit : UInt8)

theorem takes_transmit (tx : List UInt8) : Takes 1 (nrfTransmit (Link.good garbage uninit) tx) :=
  fun s _ => ⟨rfl, by
    rw [List.drop_one]
    rcases tx with _ | ⟨cmd, data⟩ <;> rfl⟩

theorem takes_readReg (reg : UInt8) : Takes 1 (halNrfReadReg (Link.good garbage uninit) reg) :=
  (takes_transmit garbage uninit _).bind fun _ => takes_pure _

theorem takes_setReg (reg value : UInt8) :
    Takes 1 (halNrfSetReg (Link.good garbage uninit) reg value) :=
  ((takes_transmit garbage uninit _).bind fun _ => takes_pure _).bind fun _ => takes_pure _

theorem takes_updateReg (reg : UInt8) (f : UInt8 → UInt8) :
    Takes 2 (halNrfUpdateReg (Link.good garbage uninit) reg f) :=
  (takes_readReg garbage uninit reg).bind fun _ => (takes_setReg garbage uninit reg _).chk

/-- `hal_nrf_config_tx` without an address opens pipe 0. -/
theorem takes_configTx (power : HalNrfOutputPower) (retr : UInt8) (delay : UInt16) :
    Takes 7 (halNrfConfigTx (Link.good garbage uninit) none power retr delay) := by
  have hread := takes_readReg garbage uninit
  have hset := takes_setReg garbage uninit
  have hpower : Takes 2 (halNrfSetOutputPower (Link.good garbage uninit) power) :=
    (hread _).bind fun _ => hset _ _
  have hpipe : Takes 4 (halNrfOpenPipe (Link.good garbage uninit) (.pipe 0) true) :=
    (hread _).bind fun _ => ((hread _).bind fun _ =>
      ((hset _ _).bind fun _ => (hset _ _).chk).chk).chk
  exact hpower.bind fun _ => ((hset _ _).bind fun _ => hpipe.chk).chk

theorem takes_initTx : Takes 22 (initTx (Link.good garbage uninit)) := by
  have hflush := fun cmd => (takes_transmit garbage uninit [cmd]).bind fun _ => takes_pure ()
  have hset := takes_setReg garbage uninit
  have hupdate := takes_updateReg garbage uninit
  have hconfig := takes_configTx garbage uninit .dbm0 0 0
  refine (hflush _).bind (j := 21) fun _ => ?_
  refine (hflush _).bind (j := 20) fun _ => ?_
  refine (hupdate _ _).bind (j := 18) fun _ => ?_
  refine (hupdate _ _).bind (j := 16) fun _ => ?_
  refine (hupdate _ _).bind (j := 14) fun _ => ?_
  exact (hset _ _).exec <| (hupdate _ _).exec <| (hupdate _ _).exec <| (hupdate _ _).exec <|
    hconfig.exec (takes_pure true)

end Takes

section Transfers

variable (garbage : ℕ → ℕ → UInt8) (uninit : UInt8)

/-- A transfer. -/
theorem yields_transmit {P Q : Radio → Prop} (hP : Radio.Steady P) {cmd : UInt8}
    {data : List UInt8} (h : ∀ r, P r → Q (r.next data (NrfCmd.decode cmd))) :
    Yields (Fine P) (nrfTransmit (Link.good garbage uninit) (cmd :: data)) fun _ => Fine Q :=
  fun _ hs => ⟨rfl, h _ (hP.now hs.radio)⟩

theorem keptByRegs_fine {P : Radio → Prop} (hP : Radio.Steady P)
    (h : ∀ r reg data, P r → P (r.writeReg reg data)) :
    KeptByRegs (Link.good garbage uninit) (Fine P) := fun cmd data hcmd =>
  yields_transmit garbage uninit hP fun r hr => by
    rcases Radio.next_of_isRegCmd hcmd r data with hnext | ⟨reg, hnext⟩
    · rw [hnext]
      exact hr
    · rw [hnext]
      exact h r reg data hr

theorem keptByRegs_idle (acked : List (List UInt8)) :
    KeptByRegs (Link.good garbage uninit) (Fine (Radio.Idle acked)) :=
  keptByRegs_fine garbage uninit Radio.steady_idle fun _ reg data h => h.writeReg reg data

theorem keptByRegs_queued (acked txFifo : List (List UInt8)) :
    KeptByRegs (Link.good garbage uninit) (Fine (Radio.Queued acked txFifo)) :=
  keptByRegs_fine garbage uninit Radio.steady_queued fun _ reg data h =>
    ⟨h.toIdle.writeReg reg data, h.txFifo⟩

theorem keptByRegs_sent (acked : List (List UInt8)) (pload : List UInt8) :
    KeptByRegs (Link.good garbage uninit) (Fine (Radio.Sent acked pload)) :=
  keptByRegs_fine garbage uninit Radio.steady_sent fun _ reg data h => h.writeReg reg data

/-- Flags are looked at and cleared. -/
theorem yields_getClear {P : Radio → Prop} {Q : UInt8 → Radio → Prop} (hP : Radio.Steady P)
    (h : ∀ r, P r → Q r.irqBits (r.clear Nrf.irqMask)) :
    Yields (Fine P) (halNrfGetClearIrqFlags (Link.good garbage uninit)) fun v => Fine (Q v) :=
  fun _ hs => by
    rw [getClearIrqFlags_link]
    exact ⟨rfl, h _ (hP.now hs.radio)⟩

/-! ### The parts of a round -/

variable {acked : List (List UInt8)}

theorem yields_nrfExec {P : Radio → Prop} {cmd : NrfM Link Unit} {next : NrfM Link Bool}
    {Q : Bool → NrfSt Link → Prop} (hcmd : Keeps (Fine P) cmd) (hnext : Yields (Fine P) next Q) :
    Yields (Fine P) (nrfExec cmd next) Q :=
  hcmd.yields.bind fun _ s hs => by
    rw [if_neg (Bool.eq_false_iff.mp hs.ecomm)]
    exact hnext s hs

/-- `init_tx` empties the queue. -/
theorem yields_initTx :
    Yields (Fine (Radio.Idle acked)) (initTx (Link.good garbage uninit))
      fun ok s => ok = true ∧ Fine (Radio.Queued acked []) s := by
  have hset := fun c => setter_keeps (keptByRegs_queued garbage uninit acked []) c
  refine Yields.bind (Q := fun _ => Fine (Radio.Idle acked)) ?_ fun _ => ?_
  · exact (yields_transmit garbage uninit Radio.steady_idle fun _ h => ⟨h.onAir, h.acked⟩).bind
      fun _ => keeps_pure _
  refine Yields.bind (Q := fun _ => Fine (Radio.Queued acked [])) ?_ fun _ => ?_
  · exact (yields_transmit garbage uninit Radio.steady_idle
      fun _ h => ⟨⟨h.onAir, h.acked⟩, rfl⟩).bind fun _ => keeps_pure _
  refine (hset (.dynamicPayload false)).yields.bind fun _ => ?_
  refine (hset (.ackPayload false)).yields.bind fun _ => ?_
  refine (hset (.dynamicAck false)).yields.bind fun _ => ?_
  refine yields_nrfExec (hset (.rfChannel 20)) ?_
  refine yields_nrfExec (hset (.datarate .mbps1)) ?_
  refine yields_nrfExec (hset (.crcMode .bit16)) ?_
  refine yields_nrfExec (hset (.operationMode .ptx)) ?_
  refine yields_nrfExec (config_keeps (keptByRegs_queued garbage uninit acked [])
    (.configTx none .dbm0 0 0)) ?_
  exact fun s hs => ⟨rfl, hs⟩

/-- The message is queued. -/
theorem yields_writeTxPayload (tx : ℕ → UInt8) :
    Yields (Fine (Radio.Queued acked []))
      (halNrfWriteTxPayload (Link.good garbage uninit) tx (UInt8.ofNat nrfMaxPl))
      fun _ => Fine (Radio.Queued acked [txPload tx]) := by
  refine (yields_transmit garbage uninit Radio.steady_queued fun r h => ?_).bind fun _ =>
    keeps_pure _
  show Radio.Queued acked [txPload tx] (r.queue (txPload tx))
  rw [Radio.queue, if_pos (by rw [h.txFifo]; decide)]
  exact ⟨⟨h.onAir, h.acked⟩, by rw [h.txFifo]; rfl⟩

/-- The flags are cleared before the transmission. -/
theorem yields_clear {txFifo : List (List UInt8)} :
    Yields (Fine (Radio.Queued acked txFifo))
      (halNrfGetClearIrqFlags (Link.good garbage uninit))
      fun _ => Fine (Radio.Ready acked txFifo) := by
  have hmask : ∀ i : HalNrfIrqSource, hasBit Nrf.irqMask i.maskBit = true := fun i => by
    cases i <;> decide
  have hclear : ∀ (r : Radio) i, (r.clear Nrf.irqMask).irq i = false := fun r i => by
    show (r.irq i && !hasBit Nrf.irqMask i.maskBit) = false
    rw [hmask i]
    exact Bool.and_false _
  exact yields_getClear garbage uninit Radio.steady_queued
    fun r h => ⟨⟨⟨h.onAir, h.acked⟩, h.txFifo⟩, hclear r _, hclear r _⟩

/-- The transmission starts. -/
theorem yields_pulse {pload : List UInt8} :
    Yields (Fine (Radio.Ready acked [pload])) Link.pulse fun _ => Fine (Radio.Flying acked pload) :=
  fun _ hs => ⟨hs.ecomm, ⟨hs.radio.txDs, hs.radio.maxRt⟩, congrArg List.head? hs.radio.txFifo,
    hs.radio.acked⟩

/-- What a look at the flags tells of a transmission, by what went on in the air before it. -/
theorem yields_look {pload : List UInt8} (air : List (List RadioEvent)) :
    Yields (FineAt (Radio.Flying acked pload) air)
      (halNrfGetClearIrqFlags (Link.good garbage uninit)) fun v =>
        FineAt (Radio.Looked acked pload v ((air.headD []).findSome? RadioEvent.ends)) air.tail :=
  fun s hs => by
    rw [getClearIrqFlags_link, ← hs.air]
    exact ⟨⟨rfl, (hs.radio.events _).looked⟩, rfl⟩

/-- The wait. The induction is on the looks that are left; each tells the transmission as ended,
or leaves it on the air with what goes on after it. -/
theorem yields_txWait {pload : List UInt8} (i : ℕ) (air : List (List RadioEvent)) :
    Yields (FineAt (Radio.Flying acked pload) air) (txWait (Link.good garbage uninit) i)
      fun flags => FineAt (Radio.Waited acked pload (airEnded i air) flags) (airAfter i air) := by
  induction i generalizing air with
  | zero =>
    intro s hs
    have hsent : Radio.Sent acked pload s.dev.radio :=
      ⟨Or.inr ⟨hs.radio.onAir, hs.radio.acked⟩, Or.inl hs.radio.acked⟩
    exact ⟨⟨hs.ecomm, hsent, rfl, fun h => absurd h (Option.some_ne_none true).symm⟩, hs.air⟩
  | succ i ih =>
    refine (yields_look garbage uninit air).bind fun v s hs => ?_
    have hair := hs.air
    rw [airEnded_succ, airAfter]
    rcases hends : (air.headD []).findSome? RadioEvent.ends with _ | _ | _ <;> rw [hends] at hs
    · obtain ⟨⟨hds, hrt⟩, hfly⟩ := hs.radio
      rw [if_neg (by rw [hds, hrt]; decide)]
      exact ih air.tail s ⟨⟨hs.ecomm, hfly⟩, hair⟩
    · obtain ⟨hrt, hidle⟩ := hs.radio
      rw [if_pos (by rw [hrt, Bool.or_true])]
      refine ⟨⟨hs.ecomm, ⟨Or.inl hidle.onAir, Or.inl hidle.acked⟩, ?_, fun h => ?_⟩, hair⟩
      · exact congrArg (fun x => some !x) hrt
      · exact absurd (Option.some.inj h) Bool.false_ne_true
    · obtain ⟨⟨hds, hrt⟩, hidle⟩ := hs.radio
      rw [if_pos (by rw [hds, hrt]; decide)]
      refine ⟨⟨hs.ecomm, ⟨Or.inl hidle.onAir, Or.inr hidle.acked⟩, ?_, fun _ => hidle⟩, hair⟩
      exact congrArg (fun x => some !x) hrt

/-- What is to be said after a wait, and how the transmitter is left. -/
def WaitEnds (acked : List (List UInt8)) (pload : List UInt8) (ended : Option Bool)
    (air : List (List RadioEvent)) (outcome : TxOutcome) (s : NrfSt Link) : Prop :=
  if ended = some true then outcome = .sent ∧ FineAt (Radio.Idle (acked ++ [pload])) air s
  else outcome = .timeout ∧ FineAt (Radio.Sent acked pload) (air.drop 1) s

theorem yields_txOutcome {pload : List UInt8} {ended : Option Bool} (flags : Option UInt8)
    (air : List (List RadioEvent)) :
    Yields (FineAt (Radio.Waited acked pload ended flags) air)
      (txOutcome (Link.good garbage uninit) flags) (WaitEnds acked pload ended air) := by
  have hflush : ended ≠ some true → Yields (FineAt (Radio.Sent acked pload) air)
      (do halNrfFlushTx (Link.good garbage uninit); return TxOutcome.timeout)
      (WaitEnds acked pload ended air) := by
    intro hended
    have htransmit : Yields (Fine (Radio.Sent acked pload))
        (nrfTransmit (Link.good garbage uninit) [Nrf.flushTx])
        fun _ => Fine (Radio.Sent acked pload) :=
      yields_transmit garbage uninit Radio.steady_sent fun _ h => ⟨h.onAir, h.acked⟩
    refine Yields.bind (Q := fun _ => FineAt (Radio.Sent acked pload) (air.drop 1)) ?_
      fun _ s hs => ?_
    · exact (htransmit.fineAt (takes_transmit garbage uninit _) air).bind fun _ => keeps_pure ()
    rw [WaitEnds, if_neg hended]
    exact ⟨rfl, hs⟩
  intro s hs
  have htold := hs.radio.told
  cases flags with
  | none =>
    have hended : ended ≠ some true := by
      rw [← htold]
      exact (Option.some_ne_none true).symm
    exact hflush hended s ⟨⟨hs.ecomm, hs.radio.sent⟩, hs.air⟩
  | some v =>
    rw [txOutcome]
    rcases hbit : hasBit v HalNrfIrqSource.maxRt.maskBit with _ | _
    · have hended : ended = some true := by
        rw [← htold, Option.map_some, hbit]
        rfl
      rw [if_neg Bool.false_ne_true, WaitEnds, if_pos hended]
      exact ⟨rfl, ⟨hs.ecomm, hs.radio.idle hended⟩, hs.air⟩
    · have hended : ended ≠ some true := by
        rw [← htold, Option.map_some, hbit]
        decide
      rw [if_pos rfl]
      exact hflush hended s ⟨⟨hs.ecomm, hs.radio.sent⟩, hs.air⟩

/-- The power is turned off, which ends a transmission. -/
theorem yields_powerDown {pload : List UInt8} :
    Yields (Fine (Radio.Sent acked pload))
      (halNrfSetPowerMode (Link.good garbage uninit) .pwrDown)
      fun _ => Fine fun r => Radio.Idle acked r ∨ Radio.Idle (acked ++ [pload]) r := by
  have hread := keeps_readReg (keptByRegs_sent garbage uninit acked pload)
    (show IsRegCmd Nrf.config by decide)
  refine hread.yields.bind fun v s hs => ?_
  rw [chkSpiErr, if_neg (Bool.eq_false_iff.mp hs.ecomm)]
  refine ⟨rfl, ?_⟩
  show Radio.Idle acked (s.dev.now.writeReg 0 [putBit 1 false v]) ∨
    Radio.Idle (acked ++ [pload]) (s.dev.now.writeReg 0 [putBit 1 false v])
  have hoff : (s.dev.now.writeReg 0 [putBit 1 false v]).onAir = none := by
    refine if_neg ?_
    show ¬ hasBit (putBit 1 false v) 1 = true
    rw [hasBit_putBit_self v (by decide)]
    decide
  rcases (Radio.steady_sent.now hs.radio).acked with h | h
  · exact Or.inl ⟨hoff, h⟩
  · exact Or.inr ⟨hoff, h⟩

/-- The end of a round: the message was acknowledged, or it is said to have timed out. -/
structure RoundEnds (acked : List (List UInt8)) (pload : List UInt8)
    (air : List (List RadioEvent)) (outcome : TxOutcome) (s : NrfSt Link) : Prop where
  said : outcome = (airRound air).1
  air : s.dev.air = (airRound air).2
  fine : (outcome = .sent ∧ Fine (Radio.Idle (acked ++ [pload])) s) ∨
    (outcome = .timeout ∧
      Fine (fun r => Radio.Idle acked r ∨ Radio.Idle (acked ++ [pload]) r) s)

/-- The end of a round, after the wait. -/
theorem yields_roundEnd {pload : List UInt8} (outcome : TxOutcome) (air : List (List RadioEvent)) :
    Yields (WaitEnds acked pload (airEnded 20 (air.drop 26)) (airAfter 20 (air.drop 26)) outcome)
      (do halNrfSetPowerMode (Link.good garbage uninit) .pwrDown; return outcome)
      (RoundEnds acked pload air) := by
  have hdown := takes_updateReg garbage uninit Nrf.config (putBit 1 false)
  intro s hs
  rw [WaitEnds] at hs
  split_ifs at hs with hended
  · obtain ⟨rfl, hs⟩ := hs
    have hset := (setter_keeps (keptByRegs_idle garbage uninit (acked ++ [pload]))
      (.powerMode .pwrDown)).yields.fineAt hdown _ s hs
    refine ⟨?_, ?_, Or.inl ⟨rfl, hset.toFine⟩⟩
    · rw [airRound, if_pos hended]
      rfl
    · rw [airRound, if_pos hended]
      exact hset.air
  · obtain ⟨rfl, hs⟩ := hs
    have hset := (yields_powerDown garbage uninit).fineAt hdown _ s hs
    refine ⟨?_, ?_, Or.inr ⟨rfl, hset.toFine⟩⟩
    · rw [airRound, if_neg hended]
      rfl
    · rw [airRound, if_neg hended]
      exact hset.air.trans (List.drop_drop ..)

/-- A round of the TX loop. The transfers before the pulse end no transmission, as none is on the
air, and power-down ends one that no look has seen the end of. -/
theorem yields_txRound (tx : ℕ → UInt8) (air : List (List RadioEvent)) :
    Yields (FineAt (Radio.Idle acked) air) (txRound (Link.good garbage uninit) Link.pulse tx)
      (RoundEnds acked (txPload tx) air) := by
  have hkeeps := setter_keeps (keptByRegs_idle garbage uninit acked) (.powerMode .pwrUp)
  have hup := hkeeps.yields.fineAt
    (takes_updateReg garbage uninit Nrf.config (putBit 1 true)) air
  refine hup.bind fun _ s hs => ?_
  rw [if_neg (Bool.eq_false_iff.mp hs.ecomm)]
  have hinit : Yields (FineAt (Radio.Idle acked) (air.drop 2)) (initTx (Link.good garbage uninit))
      fun ok s => ok = true ∧ FineAt (Radio.Queued acked []) (air.drop 24) s := fun s hs =>
    have h := yields_initTx garbage uninit s hs.toFine
    ⟨h.1, h.2, by
      rw [(takes_initTx garbage uninit s hs.ecomm).2, hs.air, List.drop_drop]⟩
  refine Yields.bind (R := RoundEnds acked (txPload tx) air) hinit (fun ok s h => ?_) s hs
  obtain ⟨rfl, hs⟩ := h
  rw [if_pos rfl]
  have hwrite : Yields (FineAt (Radio.Queued acked []) (air.drop 24))
      (halNrfWriteTxPayload (Link.good garbage uninit) tx (UInt8.ofNat nrfMaxPl))
      fun _ => FineAt (Radio.Queued acked [txPload tx]) ((air.drop 24).drop 1) :=
    (yields_writeTxPayload garbage uninit tx).fineAt
      ((takes_transmit garbage uninit _).bind fun _ => takes_pure ()) _
  refine Yields.bind (R := RoundEnds acked (txPload tx) air) hwrite (fun _ => ?_) s hs
  have htakes : Takes 1 (halNrfGetClearIrqFlags (Link.good garbage uninit)) :=
    ((takes_transmit garbage uninit _).bind fun _ => takes_pure _).bind fun _ => takes_pure _
  refine ((yields_clear garbage uninit).fineAt htakes _).bind fun _ => ?_
  refine (yields_pulse.fineAt (k := 0) (fun _ h => ⟨h, rfl⟩) _).bind fun _ => ?_
  have hair : (((air.drop 24).drop 1).drop 1).drop 0 = air.drop 26 := by
    rw [List.drop_zero, List.drop_drop, List.drop_drop]
  rw [hair]
  refine (yields_txWait garbage uninit 20 (air.drop 26)).bind fun flags => ?_
  exact (yields_txOutcome garbage uninit flags _).bind fun outcome =>
    yields_roundEnd garbage uninit outcome air

/-- The messages that are said to be sent. -/
def reported (txs : List (ℕ → UInt8)) (outcomes : List TxOutcome) : List (List UInt8) :=
  (txs.zip outcomes).filterMap fun x => if x.2 = .sent then some (txPload x.1) else none

theorem reported_cons (tx : ℕ → UInt8) (txs : List (ℕ → UInt8)) (outcome : TxOutcome)
    (outcomes : List TxOutcome) : reported (tx :: txs) (outcome :: outcomes) =
      reported [tx] [outcome] ++ reported txs outcomes := by
  rw [reported, reported, reported, ← List.filterMap_append]
  rfl

/-- What the rounds say of the messages, and what was acknowledged. -/
structure RoundsEnd (acked : List (List UInt8)) (txs : List (ℕ → UInt8))
    (air : List (List RadioEvent)) (outcomes : List TxOutcome) (new : List (List UInt8))
    (s : NrfSt Link) : Prop where
  said : outcomes = airOutcomes txs.length air
  fine : Fine (Radio.Idle (acked ++ new)) s
  reported : (reported txs outcomes).Sublist new
  sublist : new.Sublist (txs.map txPload)

theorem yields_txRounds (txs : List (ℕ → UInt8)) (air : List (List RadioEvent)) :
    Yields (FineAt (Radio.Idle acked) air)
      (txRounds (Link.good garbage uninit) Link.pulse txs)
      fun outcomes s => ∃ new, RoundsEnd acked txs air outcomes new s := by
  induction txs generalizing acked air with
  | nil =>
    exact fun s hs => ⟨[], rfl, (List.append_nil acked).symm ▸ hs.toFine, List.Sublist.refl [],
      List.Sublist.refl []⟩
  | cons tx txs ih =>
    refine (yields_txRound garbage uninit tx air).bind fun outcome s h => ?_
    -- of this message, which was acknowledged or not, and on to the others
    have hrest : ∀ first : List (List UInt8), outcome ≠ .stop →
        Fine (Radio.Idle (acked ++ first)) s → (reported [tx] [outcome]).Sublist first →
        first.Sublist [txPload tx] →
        let r := (if outcome = .stop then return [outcome]
          else return outcome :: (← txRounds (Link.good garbage uninit) Link.pulse txs) :
          NrfM Link (List TxOutcome)) s
        ∃ new, RoundsEnd acked (tx :: txs) air r.1 new r.2 := by
      intro first hstop hs hreported hfirst
      rw [if_neg hstop]
      obtain ⟨new, hnew⟩ := ih (airRound air).2 s ⟨hs, h.air⟩
      refine ⟨first ++ new, ?_, ?_, ?_, hfirst.append hnew.sublist⟩
      · rw [List.length_cons, airOutcomes, ← h.said, ← hnew.said]
        rfl
      · rw [← List.append_assoc]
        exact hnew.fine
      · exact (reported_cons ..).symm ▸ hreported.append hnew.reported
    rcases h.fine with ⟨rfl, hs⟩ | ⟨rfl, hecomm, h | h⟩
    · exact hrest [txPload tx] (by decide) hs (List.Sublist.refl _) (List.Sublist.refl _)
    · exact hrest [] (by decide) ⟨hecomm, (List.append_nil acked).symm ▸ h⟩ (List.nil_sublist _)
        (List.nil_sublist _)
    · exact hrest [txPload tx] (by decide) ⟨hecomm, h⟩ (List.nil_sublist _) (List.Sublist.refl _)

theorem length_airOutcomes (n : ℕ) (air : List (List RadioEvent)) :
    (airOutcomes n air).length = n := by
  induction n generalizing air with
  | zero => rfl
  | succ n ih => exact congrArg Nat.succ (ih _)

end Transfers

/-- **Transmitting.** Whatever goes on in the air, a message is said to be sent just if what ended
its transmission first, before one of the 20 looks that follow its pulse of `CE`, is an
acknowledgement. What is said to be sent was acknowledged, in this order; and what was acknowledged
are messages of the transmitter, each at most once and in their order. After each message the
transmitter is idle.

No transfer fails. The air is a list of what goes on before each of the transfers to come, and
`airOutcomes` counts the transfers of a round. -/
theorem txRounds_reports (garbage : ℕ → ℕ → UInt8) (uninit : UInt8) {s : NrfSt Link}
    (hidle : s.dev.radio.onAir = none) (herr : s.ecomm = false) (txs : List (ℕ → UInt8)) :
    let r := txRounds (Link.good garbage uninit) Link.pulse txs s
    r.1 = airOutcomes txs.length s.dev.air ∧ r.1.length = txs.length ∧
      r.2.dev.radio.onAir = none ∧ ∃ new,
        r.2.dev.radio.acked = s.dev.radio.acked ++ new ∧ (reported txs r.1).Sublist new ∧
          new.Sublist (txs.map txPload) := by
  obtain ⟨new, h⟩ := yields_txRounds garbage uninit txs s.dev.air s ⟨⟨herr, hidle, rfl⟩, rfl⟩
  exact ⟨h.said, (congrArg List.length h.said).trans (length_airOutcomes ..),
    h.fine.radio.onAir, new, h.fine.radio.acked, h.reported, h.sublist⟩

/-- Two messages, of which the first is acknowledged. -/
theorem txRounds_reports_two :
    let radio : Radio :=
      ⟨fun _ _ => 0x0a, [], [], fun _ => false, false, none, [], [], fun _ => 0⟩
    let air := List.replicate 27 [] ++ [[RadioEvent.ack]]
    let r := txRounds (Link.good (fun _ _ => 0) 0) Link.pulse [fun _ => 1, fun _ => 2]
      ⟨⟨radio, air⟩, 0, false, []⟩
    r.1 = [.sent, .timeout] ∧ r.1.length = 2 ∧ r.2.dev.radio.onAir = none ∧ ∃ new,
      r.2.dev.radio.acked = [] ++ new ∧ (reported [fun _ => 1, fun _ => 2] r.1).Sublist new ∧
        new.Sublist [txPload fun _ => 1, txPload fun _ => 2] :=
  txRounds_reports _ _ rfl rfl _

end Librasp
