import Librasp.Devices.NrfRadio
import Librasp.Foundation.Loop

/-!
# Receiving

The receiver of `nrf_rx.c` looks for `RX_DR`, which it clears by that, and if it was set reads
payloads until the queue is empty. A payload may come at any time: between the clearing and the
first read, between two reads, or after the queue was found empty.

None is missed, because the flag of a payload that comes after the clearing stays set, and the
queue is found empty after every payload whose flag was cleared (`rxRounds_delivers`).

* It is asked that no transfer fails (`Link.good`) and that what goes on in the air is a finite
  list of events before each transfer. That the air comes to an end is what lets the inner loop do
  so: `budget` counts what is still to go on, and each of its rounds takes a payload from the
  queue or is the last.
* `Passes` says that so many transfers were made or more, and that what was to go on in the air
  before them is over. So a round cannot be one that does nothing.
* The invariant between the rounds is that the queue is empty, or flagged (`Radio.Hears`): the
  payloads received are those told, and those in the queue.

**Main result.** `rxRounds_delivers`: after every round the payloads told are those received since
the flush, each once and in their order.
-/

namespace Librasp

section Model

variable {δ : Type} (b : NrfBus δ)

/-- What `hal_nrf_read_rx_payload` returns, and copies to the caller. -/
abbrev RxTold := UInt16 × List UInt8

/-- A round of `while (!hal_nrf_rx_fifo_empty())`. -/
def rxDrainStep (x : NrfSt δ × List RxTold) :
    (NrfSt δ × List RxTold) ⊕ (NrfSt δ × List RxTold) :=
  let e := halNrfRxFifoEmpty b x.1
  if e.1 then .inr (e.2, x.2)
  else
    let p := halNrfReadRxPayload b e.2
    .inl (p.2, x.2 ++ [p.1])

/-- A round of the RX loop. -/
def rxRound (fuel : ℕ) (x : NrfSt δ × List RxTold) : Option (NrfSt δ × List RxTold) :=
  let f := halNrfGetClearIrqFlags b x.1
  if hasBit f.1 HalNrfIrqSource.rxDr.maskBit then Loop.run (rxDrainStep b) fuel (f.2, x.2)
  else some (f.2, x.2)

/-- Rounds of the RX loop, between two restarts. -/
def rxRounds (fuel : ℕ) : ℕ → NrfSt δ × List RxTold → Option (NrfSt δ × List RxTold)
  | 0, x => some x
  | n + 1, x => (rxRound b fuel x).bind (rxRounds fuel n)

end Model

/-- What the caller is told of a payload: pipe and length, and the bytes. -/
def RxPload.told (p : RxPload) : RxTold :=
  ((UInt8.ofNat p.pipe).toUInt16 <<< 8 ||| (UInt8.ofNat p.bytes.length).toUInt16, p.bytes)

/-! ### The air -/

namespace Radio

/-- Payloads came, and are flagged. -/
structure Hears (r : Radio) (new : List RxPload) (r' : Radio) : Prop where
  fifo : r'.rxFifo = r.rxFifo ++ new
  heard : r'.heard = r.heard ++ new
  flag : r'.irq .rxDr = (r.irq .rxDr || !new.isEmpty)

theorem Hears.refl (r : Radio) : Hears r [] r :=
  ⟨(List.append_nil _).symm, (List.append_nil _).symm, (Bool.or_false _).symm⟩

theorem Hears.trans {r r' r'' : Radio} {new new' : List RxPload} (h : Hears r new r')
    (h' : Hears r' new' r'') : Hears r (new ++ new') r'' where
  fifo := by rw [h'.fifo, h.fifo, List.append_assoc]
  heard := by rw [h'.heard, h.heard, List.append_assoc]
  flag := by
    rw [h'.flag, h.flag, Bool.or_assoc, ← Bool.not_and]
    cases new <;> cases new' <;> rfl

/-- What a queue holds is flagged. -/
theorem Hears.flag_of_fifo {r r' : Radio} {new : List RxPload} (h : Hears r new r')
    (hr : r.rxFifo = []) (hr' : r'.rxFifo ≠ []) : r'.irq .rxDr = true := by
  have hnew : new ≠ [] := fun hnil => hr' (by rw [h.fifo, hr, hnil]; rfl)
  rw [h.flag, List.isEmpty_eq_false_iff.mpr hnew]
  exact Bool.or_true _

theorem hears_assert {r : Radio} {i : HalNrfIrqSource} (h : i ≠ .rxDr) :
    Hears r [] (r.assert i) :=
  ⟨(List.append_nil _).symm, (List.append_nil _).symm,
    (irq_assert_of_ne r h.symm).trans (Bool.or_false _).symm⟩

theorem hears_event (r : Radio) (e : RadioEvent) :
    ∃ new, Hears r new (r.event e) ∧ new.length ≤ 1 := by
  cases e with
  | receive p =>
    rw [event]
    split_ifs
    · exact ⟨[p], ⟨rfl, rfl, (irq_assert_self ..).trans (Bool.or_true _).symm⟩, le_rfl⟩
    · exact ⟨[], Hears.refl r, Nat.zero_le 1⟩
  | ack =>
    rw [event]
    split
    · exact ⟨[], Hears.refl r, Nat.zero_le 1⟩
    · have h := hears_assert (r := r) (i := .txDs) HalNrfIrqSource.noConfusion
      exact ⟨[], ⟨h.fifo, h.heard, h.flag⟩, Nat.zero_le 1⟩
  | giveUp =>
    rw [event]
    split
    · exact ⟨[], Hears.refl r, Nat.zero_le 1⟩
    · have h := hears_assert (r := r) (i := .maxRt) HalNrfIrqSource.noConfusion
      exact ⟨[], ⟨h.fifo, h.heard, h.flag⟩, Nat.zero_le 1⟩

theorem hears_events (r : Radio) (es : List RadioEvent) :
    ∃ new, Hears r new (es.foldl event r) ∧ new.length ≤ es.length := by
  induction es generalizing r with
  | nil => exact ⟨[], Hears.refl r, le_rfl⟩
  | cons e es ih =>
    obtain ⟨new, hnew, hle⟩ := hears_event r e
    obtain ⟨new', hnew', hle'⟩ := ih (r.event e)
    refine ⟨new ++ new', hnew.trans hnew', ?_⟩
    rw [List.length_append, List.length_cons]
    omega

end Radio

namespace Link

/-- How much is still to go on in the air. -/
def budget (l : Link) : ℕ := (l.air.map List.length).sum

/-- Payloads come before a transfer. They are queued behind those before, and flagged, as long as
there is room for them; the others are lost, and not received. -/
theorem hears_now (l : Link) (r : Radio) :
    ∃ new, l.radio.Hears new l.now ∧ new.length + (l.later r).budget ≤ l.budget := by
  obtain ⟨new, hnew, hle⟩ := l.radio.hears_events (l.air.headD [])
  refine ⟨new, hnew, ?_⟩
  rcases hair : l.air with _ | ⟨es, rest⟩
  · rw [hair] at hle
    rw [Nat.le_zero.mp hle, budget, later, hair]
    exact Nat.zero_le _
  · rw [hair] at hle
    rw [budget, budget, later, hair]
    exact Nat.add_le_add_right hle _

end Link

/-! ### Transfers -/

/-- So many transfers were made or more, and what went on in the air before them is over. -/
structure Passes (k : ℕ) (s s' : NrfSt Link) : Prop where
  le : s.n + k ≤ s'.n
  air : s'.dev.air = s.dev.air.drop (s'.n - s.n)

theorem Passes.refl (s : NrfSt Link) : Passes 0 s s :=
  ⟨le_rfl, by rw [Nat.sub_self, List.drop_zero]⟩

theorem Passes.trans {k k' : ℕ} {s s' s'' : NrfSt Link} (h : Passes k s s')
    (h' : Passes k' s' s'') : Passes (k + k') s s'' := by
  have hle := h.le
  have hle' := h'.le
  refine ⟨by omega, ?_⟩
  have hsum : s'.n - s.n + (s''.n - s'.n) = s''.n - s.n := by omega
  rw [h'.air, h.air, List.drop_drop, hsum]

theorem Passes.mono {k k' : ℕ} {s s' : NrfSt Link} (h : Passes k s s') (hle : k' ≤ k) :
    Passes k' s s' :=
  ⟨(Nat.add_le_add_left hle _).trans h.le, h.air⟩

/-- One transfer. -/
theorem passes_later (s : NrfSt Link) (r : Radio) (ecomm : Bool) (sent : List (List UInt8)) :
    Passes 1 s ⟨s.dev.later r, s.n + 1, ecomm, sent⟩ := by
  refine ⟨le_rfl, ?_⟩
  show s.dev.air.tail = s.dev.air.drop (s.n + 1 - s.n)
  rw [Nat.add_sub_cancel_left, List.drop_one]

/-! ### What is told -/

/-- `FIFO_STATUS` tells of an empty queue. -/
theorem fifoStatus_rxEmpty : ∀ e f e' f' u : Bool,
    decide ((putBit 0 e (putBit 1 f (putBit 4 e' (putBit 5 f' (putBit 6 u 0)))) >>> 0) &&& 1 ≠ 0) =
      e := by
  decide

/-- `STATUS` tells of the interrupts. -/
theorem status_irqMask : ∀ (x y z f : Bool) (p : Fin 8),
    (putBit 4 x (putBit 5 y (putBit 6 z 0)) ||| UInt8.ofNat p <<< 1 ||| f.toUInt8) &&& Nrf.irqMask =
      putBit 4 x (putBit 5 y (putBit 6 z 0)) := by
  decide

/-- `STATUS` tells of the pipe. -/
theorem status_pipe : ∀ (x y z f : Bool) (p : Fin 8),
    ((putBit 4 x (putBit 5 y (putBit 6 z 0)) ||| UInt8.ofNat p <<< 1 ||| f.toUInt8) &&&
      0x0e) >>> 1 = UInt8.ofNat p := by
  decide

namespace Radio

theorem exists_rxPNo (r : Radio) : ∃ p : Fin 8, r.rxPNo = UInt8.ofNat p := by
  rw [rxPNo]
  rcases r.rxFifo.head? with _ | p
  · exact ⟨7, rfl⟩
  · exact ⟨⟨p.pipe, by omega⟩, rfl⟩

theorem status_and_irqMask (r : Radio) : r.status &&& Nrf.irqMask = r.irqBits := by
  obtain ⟨p, hp⟩ := r.exists_rxPNo
  rw [status, hp]
  exact status_irqMask ..

theorem status_pipeNo (r : Radio) : (r.status &&& 0x0e) >>> 1 = r.rxPNo := by
  obtain ⟨p, hp⟩ := r.exists_rxPNo
  rw [status, hp]
  exact status_pipe ..

/-- The flag of an interrupt. -/
theorem hasBit_irqBits (r : Radio) (i : HalNrfIrqSource) :
    hasBit r.irqBits i.maskBit = r.irq i := by
  have h : ∀ x y z : Bool, ∀ i : Fin 3,
      hasBit (putBit 4 x (putBit 5 y (putBit 6 z 0))) (4 + i) =
        match i with | 0 => x | 1 => y | 2 => z := by decide
  cases i with
  | maxRt => exact h _ _ _ 0
  | txDs => exact h _ _ _ 1
  | rxDr => exact h _ _ _ 2

end Radio

/-! ### The calls -/

section Calls

variable (garbage : ℕ → ℕ → UInt8) (uninit : UInt8)

theorem getClearIrqFlags_link (s : NrfSt Link) :
    halNrfGetClearIrqFlags (Link.good garbage uninit) s = (s.dev.now.irqBits,
      ⟨s.dev.later (s.dev.now.clear Nrf.irqMask), s.n + 1, false,
        s.sent ++ [[Nrf.wRegister + Nrf.status, Nrf.irqMask]]⟩) := by
  rw [← Radio.status_and_irqMask]
  rfl

theorem rxFifoEmpty_link (s : NrfSt Link) :
    halNrfRxFifoEmpty (Link.good garbage uninit) s = (s.dev.now.rxFifo.isEmpty,
      ⟨s.dev.later s.dev.now, s.n + 1, false, s.sent ++ [[Nrf.fifoStatus, 0]]⟩) := by
  rw [← fifoStatus_rxEmpty s.dev.now.rxFifo.isEmpty]
  rfl

theorem rxDataSource_link (s : NrfSt Link) :
    halNrfGetRxDataSource (Link.good garbage uninit) s = (s.dev.now.rxPNo,
      ⟨s.dev.later s.dev.now, s.n + 1, false, s.sent ++ [[Nrf.nop]]⟩) := by
  rw [← Radio.status_pipeNo]
  rfl

/-- The bytes of a payload, as they are read. -/
theorem RxPload.map_bytes (p : RxPload) :
    (List.range p.bytes.length).map (fun i => p.bytes.getD i 0) = p.bytes := by
  refine List.ext_getElem (by rw [List.length_map, List.length_range]) fun i _ hi => ?_
  rw [List.getElem_map, List.getElem_range, List.getD_eq_getElem?_getD,
    List.getElem?_eq_getElem hi, Option.getD_some]

theorem RxPload.toNat_length (p : RxPload) : (UInt8.ofNat p.bytes.length).toNat = p.bytes.length :=
  UInt8.toNat_ofNat_of_lt' (lt_of_le_of_lt p.le (by decide))

/-- The transfer that reads the width of the next payload. -/
theorem readWidth_link {s : NrfSt Link} {p : RxPload} {ps : List RxPload}
    (h : s.dev.now.rxFifo = p :: ps) :
    halNrfReadRxPayloadWidth (Link.good garbage uninit) s = (UInt8.ofNat p.bytes.length,
      ⟨s.dev.later s.dev.now, s.n + 1, false, s.sent ++ [[Nrf.rRxPlWid, 0]]⟩) := by
  have hreply : s.dev.now.reply .rxPlWid 0 = UInt8.ofNat p.bytes.length := by
    rw [Radio.reply, h]
    rfl
  rw [← hreply]
  rfl

/-- The transfer that reads the next payload. -/
theorem readBytes_link {s : NrfSt Link} {p : RxPload} {ps : List RxPload}
    (h : s.dev.now.rxFifo = p :: ps) (src : UInt8) :
    halNrfReadBytes (Link.good garbage uninit) Nrf.rRxPayload src (UInt8.ofNat p.bytes.length) s =
      ((src.toUInt16 <<< 8 ||| (UInt8.ofNat p.bytes.length).toUInt16, p.bytes),
        ⟨s.dev.later s.dev.now.pop, s.n + 1, false,
          s.sent ++ [Nrf.rRxPayload :: List.replicate (UInt8.ofNat p.bytes.length).toNat 0]⟩) := by
  have hpos : (0 : UInt8) < UInt8.ofNat p.bytes.length :=
    UInt8.lt_iff_toNat_lt.mpr (p.toNat_length.symm ▸ p.pos)
  have hbytes : (List.range (UInt8.ofNat p.bytes.length).toNat).map
      (fun i => s.dev.now.reply .rxPayload i) = p.bytes := by
    rw [p.toNat_length, Radio.reply, h]
    exact p.map_bytes
  rw [halNrfReadBytes, if_pos hpos]
  exact Prod.ext (Prod.ext rfl hbytes) rfl

/-- The transfers that read a payload, of which the queue has one throughout. -/
theorem readRxPayload_run {s s₁ s₂ s₃ : NrfSt Link} {p : RxPload}
    (hsrc : halNrfGetRxDataSource (Link.good garbage uninit) s = (UInt8.ofNat p.pipe, s₁))
    (he₁ : s₁.ecomm = false)
    (hwidth : halNrfReadRxPayloadWidth (Link.good garbage uninit) s₁ =
      (UInt8.ofNat p.bytes.length, s₂)) (he₂ : s₂.ecomm = false)
    (hbytes : halNrfReadBytes (Link.good garbage uninit) Nrf.rRxPayload (UInt8.ofNat p.pipe)
      (UInt8.ofNat p.bytes.length) s₂ = (p.told, s₃)) :
    halNrfReadRxPayload (Link.good garbage uninit) s = (p.told, s₃) := by
  have hpipe : ∀ q : Fin 6, UInt8.ofNat q < 7 := by decide
  rw [halNrfReadRxPayload, halNrfReadMultibyteReg, if_neg (by decide), if_pos rfl,
    RegFile.nrfM_bind, hsrc]
  dsimp only
  rw [if_neg (Bool.eq_false_iff.mp he₁), if_pos (hpipe p.pipe), halNrfReadSized, if_pos rfl,
    RegFile.nrfM_bind, hwidth]
  dsimp only
  rw [if_neg (Bool.eq_false_iff.mp he₂), hbytes]

/-- A payload is read: the first of the queue, which then is gone. Its pipe, length and bytes are
told by three transfers, between which more payloads may come behind it. -/
theorem readRxPayload_link {s : NrfSt Link} {p : RxPload} {ps : List RxPload}
    (h : s.dev.now.rxFifo = p :: ps) :
    ∃ s' new, halNrfReadRxPayload (Link.good garbage uninit) s = (p.told, s') ∧
      s'.dev.radio.rxFifo = ps ++ new ∧ s'.dev.radio.heard = s.dev.now.heard ++ new ∧
      new.length + s'.dev.budget ≤ (s.dev.later s.dev.now).budget ∧ Passes 3 s s' := by
  have hstatus := rxDataSource_link garbage uninit s
  have hsrc : s.dev.now.rxPNo = UInt8.ofNat p.pipe := by
    rw [Radio.rxPNo, h]
    rfl
  rw [hsrc] at hstatus
  -- payloads may come before the second and before the third transfer
  obtain ⟨l₁, hl₁⟩ : ∃ l₁, l₁ = s.dev.later s.dev.now := ⟨_, rfl⟩
  obtain ⟨new₁, hnew₁, hle₁⟩ := l₁.hears_now l₁.now
  obtain ⟨l₂, hl₂⟩ : ∃ l₂, l₂ = l₁.later l₁.now := ⟨_, rfl⟩
  obtain ⟨new₂, hnew₂, hle₂⟩ := l₂.hears_now l₂.now.pop
  have h₁ : l₁.now.rxFifo = p :: (ps ++ new₁) := by
    rw [hnew₁.fifo, hl₁, Link.radio_later, h, List.cons_append]
  have h₂ : l₂.now.rxFifo = p :: (ps ++ new₁ ++ new₂) := by
    rw [hnew₂.fifo, hl₂, Link.radio_later, h₁, List.cons_append]
  rw [← hl₁] at hstatus
  have hwidth := readWidth_link garbage uninit
    (s := ⟨l₁, s.n + 1, false, s.sent ++ [[Nrf.nop]]⟩) h₁
  rw [← hl₂] at hwidth
  have hpasses₁ : Passes 1 s ⟨l₁, s.n + 1, false, s.sent ++ [[Nrf.nop]]⟩ := by
    rw [hl₁]
    exact passes_later ..
  have hpasses₂ : Passes 1 ⟨l₁, s.n + 1, false, s.sent ++ [[Nrf.nop]]⟩
      ⟨l₂, s.n + 2, false, s.sent ++ [[Nrf.nop]] ++ [[Nrf.rRxPlWid, 0]]⟩ := by
    rw [hl₂]
    exact passes_later ..
  refine ⟨_, new₁ ++ new₂, readRxPayload_run _ _ hstatus rfl hwidth rfl
    (readBytes_link _ _ h₂ _), ?_, ?_, ?_, (hpasses₁.trans hpasses₂).trans (passes_later ..)⟩
  · show l₂.now.rxFifo.tail = _
    rw [h₂, List.tail_cons, List.append_assoc]
  · show l₂.now.heard = _
    rw [hnew₂.heard, hl₂, Link.radio_later, hnew₁.heard, hl₁, Link.radio_later, List.append_assoc]
  · show (new₁ ++ new₂).length + (l₂.later l₂.now.pop).budget ≤ _
    rw [← hl₂] at hle₁
    rw [← hl₁, List.length_append]
    omega

/-! ### The loops -/

/-- A round of the inner loop, when the queue is found empty. -/
theorem rxDrainStep_empty {s : NrfSt Link} (told : List RxTold) (h : s.dev.now.rxFifo = []) :
    ∃ s', rxDrainStep (Link.good garbage uninit) (s, told) = .inr (s', told) ∧
      s'.dev.radio = s.dev.now ∧ Passes 1 s s' := by
  have hempty := rxFifoEmpty_link garbage uninit s
  refine ⟨(halNrfRxFifoEmpty (Link.good garbage uninit) s).2, if_pos ?_, ?_, ?_⟩
  · rw [hempty, h]
    rfl
  · rw [hempty]
    rfl
  · rw [hempty]
    exact passes_later ..

/-- A round of the inner loop, when there is a payload. -/
theorem rxDrainStep_payload {s : NrfSt Link} (told : List RxTold) {p : RxPload}
    {ps : List RxPload} (h : s.dev.now.rxFifo = p :: ps) :
    ∃ s' new, rxDrainStep (Link.good garbage uninit) (s, told) = .inl (s', told ++ [p.told]) ∧
      s'.dev.radio.rxFifo = ps ++ new ∧ s'.dev.radio.heard = s.dev.now.heard ++ new ∧
      new.length + s'.dev.budget ≤ (s.dev.later s.dev.now).budget ∧ Passes 4 s s' := by
  have hempty := rxFifoEmpty_link garbage uninit s
  obtain ⟨s₁, hs₁⟩ : ∃ s₁, (halNrfRxFifoEmpty (Link.good garbage uninit) s).2 = s₁ := ⟨_, rfl⟩
  have hdev : s₁.dev = s.dev.later s.dev.now := by rw [← hs₁, hempty]
  -- payloads may come after the look at the queue
  obtain ⟨new, hnew, hle⟩ := s₁.dev.hears_now s₁.dev.now
  have h₁ : s₁.dev.now.rxFifo = p :: (ps ++ new) := by
    rw [hnew.fifo, hdev, Link.radio_later, h, List.cons_append]
  obtain ⟨s', new', hread, hfifo, hheard, hle', hpasses⟩ :=
    readRxPayload_link garbage uninit h₁
  have hfirst : Passes 1 s s₁ := by
    rw [← hs₁, hempty]
    exact passes_later ..
  refine ⟨s', new ++ new', ?_, ?_, ?_, ?_, hfirst.trans hpasses⟩
  · rw [rxDrainStep, hs₁]
    refine (if_neg ?_).trans ?_
    · rw [hempty, h]
      exact Bool.false_ne_true
    · rw [hread]
  · rw [hfifo, List.append_assoc]
  · rw [hheard, hnew.heard, hdev, Link.radio_later, List.append_assoc]
  · rw [← hdev, List.length_append]
    omega

/-- **The inner loop.** It ends, and tells of every payload that came. The induction is on what is
still to go on in the air and in the queue (`budget`). -/
theorem rxDrain_run (s : NrfSt Link) (told : List RxTold) :
    ∃ fuel s' new,
      Loop.run (rxDrainStep (Link.good garbage uninit)) fuel (s, told) =
        some (s', told ++ (s.dev.radio.rxFifo ++ new).map RxPload.told) ∧
      s'.dev.radio.heard = s.dev.radio.heard ++ new ∧ s'.dev.radio.rxFifo = [] ∧
      Passes 1 s s' := by
  -- each round takes a payload from the queue, to which the air adds at most what it has left
  induction hk : s.dev.radio.rxFifo.length + s.dev.budget using Nat.strong_induction_on
    generalizing s told with
  | _ k ih =>
    subst hk
    obtain ⟨new, hnew, hle⟩ := s.dev.hears_now s.dev.now
    have hlen : s.dev.now.rxFifo.length = s.dev.radio.rxFifo.length + new.length := by
      rw [hnew.fifo, List.length_append]
    rcases hfifo : s.dev.now.rxFifo with _ | ⟨p, ps⟩
    · obtain ⟨s', hstep, hs', hpasses⟩ :=
        rxDrainStep_empty garbage uninit told hfifo
      refine ⟨1, s', new, ?_, ?_, ?_, hpasses⟩
      · rw [Loop.run_succ_of_inr hstep, ← hnew.fifo, hfifo, List.map_nil, List.append_nil]
      · rw [hs', hnew.heard]
      · rw [hs', hfifo]
    · obtain ⟨s₁, new₁, hstep, hfifo₁, hheard₁, hle₁, hpasses₁⟩ :=
        rxDrainStep_payload garbage uninit told hfifo
      have hlt : s₁.dev.radio.rxFifo.length + s₁.dev.budget <
          s.dev.radio.rxFifo.length + s.dev.budget := by
        rw [hfifo, List.length_cons] at hlen
        rw [hfifo₁, List.length_append]
        omega
      obtain ⟨fuel, s', new', hrun, hheard, hempty, hpasses⟩ := ih _ hlt s₁ (told ++ [p.told]) rfl
      refine ⟨fuel + 1, s', new ++ (new₁ ++ new'), ?_, ?_, hempty,
        (hpasses₁.trans hpasses).mono (by decide)⟩
      · rw [Loop.run_succ_of_inl hstep, hrun, ← List.append_assoc s.dev.radio.rxFifo, ← hnew.fifo,
          hfifo, hfifo₁]
        simp only [List.map_append, List.map_cons, List.append_assoc, List.cons_append,
          List.nil_append]
      · rw [hheard, hheard₁, hnew.heard]
        simp only [List.append_assoc]

/-- A round of the outer loop. -/
theorem rxRound_run {s : NrfSt Link} (told : List RxTold) (h : s.dev.radio.rxFifo = []) :
    ∃ fuel s' new,
      rxRound (Link.good garbage uninit) fuel (s, told) = some (s', told ++ new.map RxPload.told) ∧
      s'.dev.radio.heard = s.dev.radio.heard ++ new ∧ s'.dev.radio.rxFifo = [] ∧
      Passes 1 s s' := by
  have hflags := getClearIrqFlags_link garbage uninit s
  obtain ⟨s₁, hs₁⟩ : ∃ s₁, (halNrfGetClearIrqFlags (Link.good garbage uninit) s).2 = s₁ := ⟨_, rfl⟩
  have hdev : s₁.dev = s.dev.later (s.dev.now.clear Nrf.irqMask) := by rw [← hs₁, hflags]
  have hfirst : Passes 1 s s₁ := by
    rw [← hs₁, hflags]
    exact passes_later ..
  obtain ⟨new, hnew, -⟩ := s.dev.hears_now s.dev.now
  have hheard : s₁.dev.radio.heard = s.dev.radio.heard ++ new := by rw [hdev]; exact hnew.heard
  have hfifo : s₁.dev.radio.rxFifo = new := by
    rw [hdev]
    exact hnew.fifo.trans (by rw [h, List.nil_append])
  have hbit : hasBit (halNrfGetClearIrqFlags (Link.good garbage uninit) s).1
      HalNrfIrqSource.rxDr.maskBit = s.dev.now.irq .rxDr := by
    rw [hflags]
    exact s.dev.now.hasBit_irqBits .rxDr
  rcases hirq : s.dev.now.irq .rxDr with _ | _
  · -- nothing came before the flags were cleared
    have hnil : new = [] := by
      by_contra hne
      refine Bool.false_ne_true (hirq.symm.trans (hnew.flag_of_fifo h ?_))
      rw [hnew.fifo, h]
      exact hne
    refine ⟨0, s₁, [], ?_, ?_, hfifo.trans hnil, hfirst⟩
    · rw [rxRound, hs₁, List.map_nil, List.append_nil]
      exact if_neg (by rw [hbit, hirq]; exact Bool.false_ne_true)
    · rw [hheard, hnil]
  · obtain ⟨fuel, s', new', hrun, hheard', hempty, hpasses⟩ :=
      rxDrain_run garbage uninit s₁ told
    refine ⟨fuel, s', new ++ new', ?_, ?_, hempty, (hfirst.trans hpasses).mono (by decide)⟩
    · rw [rxRound, hs₁, ← hfifo]
      exact (if_pos (by rw [hbit, hirq])).trans hrun
    · rw [hheard', hheard, List.append_assoc]

theorem rxRound_of_le {δ : Type} {b : NrfBus δ} {fuel fuel' : ℕ} {x y : NrfSt δ × List RxTold}
    (h : rxRound b fuel x = some y) (hle : fuel ≤ fuel') : rxRound b fuel' x = some y := by
  dsimp only [rxRound] at h ⊢
  split_ifs at h ⊢ with hbit
  · exact Loop.run_eq_some_of_le h hle
  · exact h

theorem rxRounds_of_le {δ : Type} {b : NrfBus δ} {fuel fuel' n : ℕ} {x y : NrfSt δ × List RxTold}
    (h : rxRounds b fuel n x = some y) (hle : fuel ≤ fuel') : rxRounds b fuel' n x = some y := by
  induction n generalizing x with
  | zero => exact h
  | succ n ih =>
    obtain ⟨z, hz, hn⟩ := Option.bind_eq_some_iff.mp h
    exact Option.bind_eq_some_iff.mpr ⟨z, rxRound_of_le hz hle, ih hn⟩

theorem rxRounds_run (n : ℕ) {s : NrfSt Link} (told : List RxTold) (h : s.dev.radio.rxFifo = []) :
    ∃ fuel s' new,
      rxRounds (Link.good garbage uninit) fuel n (s, told) =
        some (s', told ++ new.map RxPload.told) ∧
      s'.dev.radio.heard = s.dev.radio.heard ++ new ∧ s'.dev.radio.rxFifo = [] ∧
      Passes n s s' := by
  induction n generalizing s told with
  | zero => exact ⟨0, s, [], by rw [rxRounds, List.map_nil, List.append_nil],
      (List.append_nil _).symm, h, Passes.refl s⟩
  | succ n ih =>
    obtain ⟨fuel, s₁, new, hround, hheard, hempty, hpasses⟩ :=
      rxRound_run garbage uninit told h
    obtain ⟨fuel', s', new', hrounds, hheard', hempty', hpasses'⟩ :=
      ih (told ++ new.map RxPload.told) hempty
    refine ⟨max fuel fuel', s', new ++ new', ?_, ?_, hempty',
      (hpasses.trans hpasses').mono (Nat.add_comm n 1).le⟩
    · rw [rxRounds, rxRound_of_le hround (le_max_left ..), Option.bind_some,
        rxRounds_of_le hrounds (le_max_right ..), List.map_append, List.append_assoc]
    · rw [hheard', hheard, List.append_assoc]

end Calls

/-- **Receiving.** From a flush of the queue on, every round of the receiver ends, whatever payloads
come before whichever transfers; after each, the payloads told are just those received since, each
once and in their order, and the queue is empty.

No transfer fails, and the air is a list of what goes on before each of the transfers to come. Every
round makes a transfer at least, so that no round leaves the air where it was: what was to go on
before the transfers of `n` rounds did go on. -/
theorem rxRounds_delivers (garbage : ℕ → ℕ → UInt8) (uninit : UInt8) (s : NrfSt Link) (n : ℕ) :
    let b := Link.good garbage uninit
    let s₀ := (halNrfFlushRx b s).2
    ∃ fuel s' new, rxRounds b fuel n (s₀, []) = some (s', new.map RxPload.told) ∧
      s'.dev.radio.heard = s₀.dev.radio.heard ++ new ∧ s'.dev.radio.rxFifo = [] ∧
        s₀.n + n ≤ s'.n ∧ s'.dev.air = s₀.dev.air.drop (s'.n - s₀.n) := by
  intro b s₀
  obtain ⟨fuel, s', new, hrun, hheard, hempty, hpasses⟩ :=
    rxRounds_run garbage uninit n (s := s₀) [] rfl
  exact ⟨fuel, s', new, hrun, hheard, hempty, hpasses.le, hpasses.air⟩

end Librasp
